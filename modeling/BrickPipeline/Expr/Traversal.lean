import BrickPipeline.Expr.Basic

/-!
Traversals of pipelines and all sub-pipelines in them: a test of every step or of some step, what
comes of taking up one step after the other, and the list of all steps with the places where they
stand.
-/
namespace BrickPipeline.Pipeline

mutual

/-- Whether every step passes a test, steps of sub-pipelines included. -/
def every (p : Step → Bool) : List Step → Bool
  | [] => true
  | step :: rest => everyInStep p step && every p rest

/-- Whether a step and all steps in its arguments pass. -/
def everyInStep (p : Step → Bool) : Step → Bool
  | .mk id config outputKey onError condition engine label instanceId =>
    p (.mk id config outputKey onError condition engine label instanceId) &&
      everyInEntries p config

def everyInValue (p : Step → Bool) : Expr → Bool
  | .pipeline steps _ => every p steps
  | .defer inner => everyInValue p inner
  | .array items => everyInItems p items
  | .object entries => everyInEntries p entries
  | _ => true

def everyInItems (p : Step → Bool) : List Expr → Bool
  | [] => true
  | item :: rest => everyInValue p item && everyInItems p rest

def everyInEntries (p : Step → Bool) : List (String × Expr) → Bool
  | [] => true
  | (_, value) :: rest => everyInValue p value && everyInEntries p rest

end

mutual

/-- Whether some step passes a test, steps of sub-pipelines included. -/
def some (p : Step → Bool) : List Step → Bool
  | [] => false
  | step :: rest => someInStep p step || some p rest

/-- Whether a step or some step in its arguments passes. -/
def someInStep (p : Step → Bool) : Step → Bool
  | .mk id config outputKey onError condition engine label instanceId =>
    p (.mk id config outputKey onError condition engine label instanceId) ||
      someInEntries p config

def someInValue (p : Step → Bool) : Expr → Bool
  | .pipeline steps _ => some p steps
  | .defer inner => someInValue p inner
  | .array items => someInItems p items
  | .object entries => someInEntries p entries
  | _ => false

def someInItems (p : Step → Bool) : List Expr → Bool
  | [] => false
  | item :: rest => someInValue p item || someInItems p rest

def someInEntries (p : Step → Bool) : List (String × Expr) → Bool
  | [] => false
  | (_, value) :: rest => someInValue p value || someInEntries p rest

end

section

variable {α : Type} (f : α → Step → α)

mutual

/-- Take up every step in turn, each before the steps in its arguments. -/
def collect (found : α) : List Step → α
  | [] => found
  | step :: rest => collect (collectStep found step) rest

/-- Take up a step and all steps in its arguments. -/
def collectStep (found : α) : Step → α
  | .mk id config outputKey onError condition engine label instanceId =>
    collectEntries (f found (.mk id config outputKey onError condition engine label instanceId))
      config

def collectValue (found : α) : Expr → α
  | .pipeline steps _ => collect found steps
  | .defer inner => collectValue found inner
  | .array items => collectItems found items
  | .object entries => collectEntries found entries
  | _ => found

def collectItems (found : α) : List Expr → α
  | [] => found
  | item :: rest => collectItems (collectValue found item) rest

def collectEntries (found : α) : List (String × Expr) → α
  | [] => found
  | (_, value) :: rest => collectEntries (collectValue found value) rest

end

end

def stepPlace (scope : String) (index : Nat) : String := s!"{scope}[{index}]"

def argumentPlace (place arg : String) : String := s!"{place}.config.{arg}"

mutual

/-- All steps with their places, each before the steps in its arguments. `index` counts the
steps before. -/
def walk (scope : String) (index : Nat) : List Step → List (String × Step)
  | [] => []
  | step :: rest => walkStep (stepPlace scope index) step ++ walk scope (index + 1) rest

/-- A step at a place and all steps in its arguments. -/
def walkStep (place : String) : Step → List (String × Step)
  | .mk id config outputKey onError condition engine label instanceId =>
    (place, .mk id config outputKey onError condition engine label instanceId) ::
      walkEntries place config

/-- All steps in a config value; its sub-pipelines are scopes of one name. -/
def walkValue (scope : String) : Expr → List (String × Step)
  | .pipeline steps _ => walk scope 0 steps
  | .defer inner => walkValue scope inner
  | .array items => walkItems scope items
  | .object entries => walkFields scope entries
  | _ => []

def walkItems (scope : String) : List Expr → List (String × Step)
  | [] => []
  | item :: rest => walkValue scope item ++ walkItems scope rest

def walkFields (scope : String) : List (String × Expr) → List (String × Step)
  | [] => []
  | (_, value) :: rest => walkValue scope value ++ walkFields scope rest

/-- All steps in the arguments of a step at a place. -/
def walkEntries (place : String) : List (String × Expr) → List (String × Step)
  | [] => []
  | (arg, value) :: rest =>
    walkValue (argumentPlace place arg) value ++ walkEntries place rest

end

/-- All steps of a pipeline and its sub-pipelines, with places that start at `pipeline`. -/
def placedSteps (steps : List Step) : List (String × Step) := walk "pipeline" 0 steps

/-- A brick among those that are used. -/
def useBrick (used : Entries Unit) (step : Step) : Entries Unit :=
  Entries.insert step.id.text () used

/-- The identifiers of all bricks in a pipeline and its sub-pipelines, each once, in order. -/
def brickIds (steps : List Step) : List String := (collect useBrick [] steps).keys

end BrickPipeline.Pipeline
