import BrickPipeline.Proofs.History

/-!
The direct interpreter. It recurses on the syntax of a pipeline: the sub-pipelines in the arguments
of a control-flow step are run as they stand, without being written as JSON, checked and read.
-/
namespace BrickPipeline

open Arguments

variable {σ : Type}

/-- The bricks that run sub-pipelines. -/
inductive Control where
  | ifElse
  | forEach
  | tryExcept
  | retry
deriving DecidableEq

namespace Control

def all : List Control := [.ifElse, .forEach, .tryExcept, .retry]

def id : Control → BrickId
  | .ifElse => Brick.Branch.id
  | .forEach => Brick.Loop.id
  | .tryExcept => Brick.Containment.id
  | .retry => Brick.Repetition.id

def brick : Control → Brick σ
  | .ifElse => Brick.ifElse
  | .forEach => Brick.forEach
  | .tryExcept => Brick.tryExcept
  | .retry => Brick.retry

/-- The arguments that hold sub-pipelines. -/
def branches : Control → List String
  | .ifElse => ["if", "else"]
  | .forEach => ["body"]
  | .tryExcept => ["try", "except"]
  | .retry => ["body"]

def ofId? (id : BrickId) : Option Control := all.find? fun control => control.id = id

end Control

namespace Pipeline

/-- The arguments in which a step of a brick holds sub-pipelines. -/
def branchNames (id : BrickId) : List String := ((Control.ofId? id).map Control.branches).getD []

mutual

/-- Whether the sub-pipelines of all control-flow steps stand in their arguments, at every level. -/
def inPlace : List Step → Bool
  | [] => true
  | step :: rest => stepInPlace step && inPlace rest

def stepInPlace : Step → Bool
  | .mk id config _ _ _ _ _ _ => entriesInPlace (branchNames id) config

def entriesInPlace (names : List String) : List (String × Expr) → Bool
  | [] => true
  | (key, value) :: rest => (!names.contains key || valueInPlace value) && entriesInPlace names rest

def valueInPlace : Expr → Bool
  | .pipeline steps _ => inPlace steps
  | _ => false

end

mutual

/-- How deep pipeline expressions are nested in the arguments of the steps. -/
def nesting : List Step → Nat
  | [] => 0
  | step :: rest => max (stepNesting step) (nesting rest)

def stepNesting : Step → Nat
  | .mk _ config _ _ _ _ _ _ => entriesNesting config

def valueNesting : Expr → Nat
  | .pipeline steps _ => nesting steps + 1
  | .defer inner => valueNesting inner
  | .array items => itemsNesting items
  | .object entries => entriesNesting entries
  | _ => 0

def itemsNesting : List Expr → Nat
  | [] => 0
  | item :: rest => max (valueNesting item) (itemsNesting rest)

def entriesNesting : List (String × Expr) → Nat
  | [] => 0
  | (_, value) :: rest => max (valueNesting value) (entriesNesting rest)

end

end Pipeline

/-- Whether the brick never asks to run a pipeline. -/
def Brick.CallFree (brick : Brick σ) : Prop := ∀ args access, (brick.run args access).CallFree

namespace Registry

/-- Whether only the control-flow bricks run pipelines. -/
def OnlyControlCalls (registry : Registry σ) : Prop :=
  ∀ (id : BrickId) (brick : Brick σ), registry.get? id.text = some brick →
    (∃ control : Control, control.id = id ∧ brick = control.brick) ∨ brick.CallFree

/-- The control-flow brick of a step, by what is known to be registered. -/
def control? (known : Control → Bool) (id : BrickId) : Option Control :=
  (Control.ofId? id).filter known

/-- Whether the known control-flow bricks are registered, and no other brick runs pipelines. -/
def Knows (registry : Registry σ) (known : Control → Bool) : Prop :=
  ∀ (id : BrickId) (brick : Brick σ), registry.get? id.text = some brick →
    match control? known id with
    | some control => brick = control.brick
    | none => brick.CallFree

end Registry

namespace Arguments

/-- Fields with an empty pipeline in the place of each sub-pipeline. -/
def outlineFields (names : List String) : List (String × Json) → List (String × Json)
  | [] => []
  | (key, value) :: rest =>
    (key, if names.contains key then (Expr.ofSteps []).toJson else value) ::
      outlineFields names rest

/-- Arguments with an empty pipeline in the place of each sub-pipeline. -/
def outline (names : List String) : Json → Json
  | .object fields => .object (outlineFields names fields)
  | value => value

end Arguments

namespace Host

/-- The host, with a validator that does not get to see sub-pipelines. -/
def outlining (host : Host σ) (names : List String) : Host σ :=
  { host with validator := fun args schema => host.validator (outline names args) schema }

/-- Run one step, and its brick as told. -/
def stepBy (host : Host σ) (info : RunInfo)
    (runBrick : Brick σ → Json → Exec σ (Except Error Json)) (step : Step) (index : Nat)
    (ctx : Context) (running : Json) : Exec σ (Except Error (Option Json)) := do
  let span := some (Log.Span.brick step.id index)
  match host.prepare info.apiVersion step ctx running with
  | .failed args error => host.fail info step index ctx args error
  | .skipped => do
    Exec.log span (stepEntry .debug "Condition is falsy, skipping step" step)
    Exec.emit (.trace (record info step index .null .skipped))
    return .ok none
  | .ready brick args => do
    Exec.log span (stepEntry .debug "Running brick" step)
    match ← runBrick brick args with
    | .error error => host.fail info step index ctx args error
    | .ok value => do
      Exec.log span (stepEntry .debug "Brick completed" step)
      Exec.emit (.trace (record info step index args (.output value)))
      return .ok (some value)

theorem runStep_eq_stepBy (host : Host σ) (info : RunInfo) (nested : Runner σ) (step : Step)
    (index : Nat) (ctx : Context) (running : Json) :
    host.runStep info nested step index ctx running =
      host.stepBy info (fun brick args => (brick.run args (host.access info step brick ctx)).exec
        nested (some (.brick step.id index)) ctx) step index ctx running := rfl

end Host

namespace Direct

/-- A sub-pipeline, ready to run below a context with bindings added. -/
abbrev Body (σ : Type) := Context → List (String × Json) → Exec σ (Except Error Json)

/-- The failure of a step that lacks a sub-pipeline. -/
def missing (id : BrickId) (name : String) : Error :=
  .invalidArgument id name "a pipeline is required"

variable (span : Option Log.Span) (ctx : Context) (args : Json)

def ifElse (body? : String → Option (Body σ)) : Exec σ (Except Error Json) := do
  let condition := (args.get? "condition").any Json.isTruthy
  Exec.log span (.plain .debug s!"condition evaluated to {condition}")
  match body? (if condition then "if" else "else") with
  | some body => body ctx []
  | none => return if condition then .error (missing Brick.Branch.id "if") else .ok .null

def each (body : List (String × Json) → Exec σ (Except Error Json)) (key : String) :
    List Json → Nat → Json → Exec σ (Except Error Json)
  | [], _, last => return .ok last
  | element :: rest, index, _ => do
    Exec.log span (.plain .debug s!"iteration {index}")
    match ← body [(key, element)] with
    | .ok value => each body key rest (index + 1) value
    | .error error => return .error error

/-- The binding key of the elements, and the elements. -/
def elements : Except Error (String × List Json) := do
  let key ← keyArgument Brick.Loop.id args "elementKey" "element"
  match args.get? "elements" with
  | some (.array elements) => return (bindingKey key, elements)
  | _ => .error (.invalidArgument Brick.Loop.id "elements" "expected an array")

def forEach (body? : String → Option (Body σ)) : Exec σ (Except Error Json) :=
  match body? "body", elements args with
  | none, _ => return .error (missing Brick.Loop.id "body")
  | some _, .error error => return .error error
  | some body, .ok (key, elements) => each span (body ctx) key elements 0 .null

def tryExcept (body? : String → Option (Body σ)) : Exec σ (Except Error Json) :=
  match body? "try", keyArgument Brick.Containment.id args "errorKey" "error" with
  | none, _ => return .error (missing Brick.Containment.id "try")
  | some _, .error error => return .error error
  | some attempt, .ok key => do
    match ← attempt ctx [] with
    | .ok value => return .ok value
    | .error error => do
      Exec.log span (.plain .info s!"caught {error.cause.name}: {error.message}")
      match body? "except" with
      | none => return .ok .null
      | some handler => handler ctx [(bindingKey key, error.toJson)]

/-- Every attempt after the first is announced. -/
def announce (number : Nat) : Exec σ Unit :=
  if number = 0 then pure () else Exec.log span (.plain .info s!"retry attempt {number + 1}")

def attempts (body : Exec σ (Except Error Json)) (policy : Backoff) (label : String)
    (maxAttempts : Nat) : Nat → Nat → Exec σ (Except Error Json)
  | spare, failures => do
    announce span failures
    match ← body with
    | .ok value => return .ok value
    | .error error =>
      match spare with
      | 0 => do
        Exec.log span (Attempts.givingUp label (failures + 1))
        return .error error
      | spare + 1 => do
        let wait := policy.delay (failures + 1)
        Exec.log span (Attempts.retrying label maxAttempts (failures + 1) wait error)
        Exec.emit (.wait wait)
        attempts body policy label maxAttempts spare (failures + 1)

/-- The number of attempts and the waits between them. -/
def policy : Except Error (Nat × Backoff) := do
  let maxAttempts ← count Brick.Repetition.id args "maxRetries" Brick.Repetition.defaultAttempts
  return (maxAttempts, ← Brick.Repetition.policy args)

def retry (body? : String → Option (Body σ)) : Exec σ (Except Error Json) :=
  match body? "body", policy args with
  | none, _ => return .error (missing Brick.Repetition.id "body")
  | some _, .error error => return .error error
  | some body, .ok (maxAttempts, policy) =>
    attempts span (body ctx []) policy Brick.Repetition.id.text (max 1 maxAttempts)
      (max 1 maxAttempts - 1) 0

/-- Run a control-flow step, given its sub-pipelines. -/
def control (body? : String → Option (Body σ)) : Control → Exec σ (Except Error Json)
  | .ifElse => ifElse span ctx args body?
  | .forEach => forEach span ctx args body?
  | .tryExcept => tryExcept span ctx args body?
  | .retry => retry span ctx args body?

variable (host : Host σ) (info : RunInfo) (known : Control → Bool)

/-- Run the brick of a step, given the sub-pipelines in its arguments. -/
def runBrick (step : Step) (body? : String → Option (Body σ)) (index : Nat) (ctx : Context)
    (brick : Brick σ) (args : Json) : Exec σ (Except Error Json) :=
  let span := some (.brick step.id index)
  match Registry.control? known step.id with
  | some found => control span ctx args body? found
  | none => (brick.run args (host.access info step brick ctx)).exec (fun _ _ => .tooDeep) span ctx

/-- Run one step, given the sub-pipelines in its arguments. -/
def stepWith (step : Step) (body? : String → Option (Body σ)) (index : Nat) (ctx : Context)
    (running : Json) : Exec σ (Except Error (Option Json)) :=
  let names := ((Registry.control? known step.id).map Control.branches).getD []
  (host.outlining names).stepBy info (runBrick host info known step body? index ctx) step index ctx
    running

mutual

/-- Run the remaining steps of a scope. -/
def steps : List Step → Nat → Context → Json → Json → Exec σ (Except Error Json)
  | [], _, _, _, last => return .ok last
  | step :: rest, index, ctx, running, last => do
    match ← runStep step index ctx running with
    | .error error => return .error error
    | .ok value =>
      steps rest (index + 1) (Host.contextAfter step ctx value)
        (Host.runningAfter step running value) (value.getD last)

def runStep : Step → Nat → Context → Json → Exec σ (Except Error (Option Json))
  | .mk id config outputKey onError condition engine label instanceId =>
    stepWith host info known (.mk id config outputKey onError condition engine label instanceId)
      (bodies config)

/-- The sub-pipeline that stands in an argument. -/
def bodies : List (String × Expr) → String → Option (Body σ)
  | [], _ => none
  | (key, value) :: rest, name => if key = name then body value else bodies rest name

def body : Expr → Option (Body σ)
  | .pipeline sub environment => some fun ctx bindings =>
    let inner := (environment.getD ctx).bindAll bindings
    steps sub 0 inner ((inner.get? inputKey).getD .null) .null
  | _ => none

end

/-- Run a pipeline in a context. -/
def runPipeline (pipeline : Pipeline) (ctx : Context) : Exec σ (Except Error Json) :=
  steps host info known pipeline 0 ctx ((ctx.get? inputKey).getD .null) .null

end Direct
end BrickPipeline
