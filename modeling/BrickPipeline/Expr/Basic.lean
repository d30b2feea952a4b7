import BrickPipeline.Scope.Context
import BrickPipeline.Scope.Template
import BrickPipeline.Ident.Uuid

/-!
Config values and steps. A config value is plain data or an expression: a template, a variable, a
sub-pipeline or a deferred value. Sub-pipelines hold steps, and steps hold config values.
-/
namespace BrickPipeline

/-- What happens when a step fails, besides the failure. -/
structure OnError where
  /-- Notify the deployment's alert channel. -/
  alert : Bool
deriving DecidableEq, Inhabited

mutual

/-- An argument of a brick as a document declares it. -/
inductive Expr where
  | literal (value : Json)
  | template (engine : Engine) (source : Option String)
  | var (path : Option String)
  /-- A sub-pipeline, perhaps closed over the bindings at its point of definition. -/
  | pipeline (steps : List Step) (environment : Option Context)
  | defer (inner : Expr)
  | array (items : List Expr)
  | object (entries : List (String × Expr))

/-- One step of a pipeline. -/
inductive Step where
  | mk (id : BrickId) (config : List (String × Expr)) (outputKey : Option String)
    (onError : Option OnError) (condition : Option Expr)
    (templateEngine : Option Engine) (label : Option String) (instanceId : Option Uuid)

end

instance : Inhabited Expr := ⟨.literal .null⟩

/-- The steps of one scope, in order. -/
abbrev Pipeline := List Step

/-- A pipeline with the bindings it is closed over, if any. -/
structure SubPipeline where
  steps : Pipeline
  environment : Option Context

namespace Step

def id : Step → BrickId
  | mk id .. => id

/-- The declared arguments, in key order. -/
def config : Step → Entries Expr
  | mk _ config .. => config

/-- The key that the step's value is bound under; without one the value is carried on. -/
def outputKey : Step → Option String
  | mk _ _ outputKey .. => outputKey

def onError : Step → Option OnError
  | mk _ _ _ onError .. => onError

def condition : Step → Option Expr
  | mk _ _ _ _ condition .. => condition

def templateEngine : Step → Option Engine
  | mk _ _ _ _ _ engine .. => engine

def label : Step → Option String
  | mk _ _ _ _ _ _ label _ => label

def instanceId : Step → Option Uuid
  | mk _ _ _ _ _ _ _ instanceId => instanceId

def new (id : BrickId) : Step := mk id [] none none none none none none

def withArg (step : Step) (name : String) (value : Expr) : Step :=
  mk step.id (Entries.insert name value step.config) step.outputKey step.onError step.condition
    step.templateEngine step.label step.instanceId

/-- The step with its value bound under a key. -/
def withOutputKey (step : Step) (outputKey : String) : Step :=
  mk step.id step.config (some outputKey) step.onError step.condition
    step.templateEngine step.label step.instanceId

def alerting (step : Step) : Step :=
  mk step.id step.config step.outputKey (some ⟨true⟩) step.condition
    step.templateEngine step.label step.instanceId

def onlyIf (step : Step) (condition : Expr) : Step :=
  mk step.id step.config step.outputKey step.onError (some condition)
    step.templateEngine step.label step.instanceId

def alerts (step : Step) : Bool := step.onError.any (·.alert)

end Step

namespace Expr

/-- The kinds of tagged expressions. -/
inductive Kind where
  | template (engine : Engine)
  | var
  | pipeline
  | defer
deriving DecidableEq

def Kind.tag : Kind → String
  | .template engine => engine.name
  | .var => "var"
  | .pipeline => "pipeline"
  | .defer => "defer"

def Kind.all : List Kind :=
  [.template .mustache, .template .nunjucks, .template .handlebars, .var, .pipeline, .defer]

def Kind.ofTag? (tag : String) : Option Kind := Kind.all.find? (·.tag == tag)

/-- The kind of an expression; other values have none. -/
def kind? : Expr → Option Kind
  | .template engine _ => some (.template engine)
  | .var _ => some .var
  | .pipeline .. => some .pipeline
  | .defer _ => some .defer
  | _ => none

/-- Templates and variables, which are rendered before the brick runs. -/
def isTemplate (value : Expr) : Bool :=
  match value.kind? with
  | some (.template _) | some .var => true
  | _ => false

def isPipeline (value : Expr) : Bool := value.kind? = some .pipeline

def isDefer (value : Expr) : Bool := value.kind? = some .defer

def str (s : String) : Expr := .literal (.string s)

def ofSteps (steps : Pipeline) : Expr := .pipeline steps none

mutual

/-- The sub-pipelines in a value, in order, those in deferred values included. The steps of a
sub-pipeline are not searched. -/
def subPipelines : Expr → List SubPipeline
  | .pipeline steps environment => [⟨steps, environment⟩]
  | .defer inner => subPipelines inner
  | .array items => subPipelinesOfItems items
  | .object entries => subPipelinesOfEntries entries
  | _ => []

def subPipelinesOfItems : List Expr → List SubPipeline
  | [] => []
  | item :: rest => subPipelines item ++ subPipelinesOfItems rest

def subPipelinesOfEntries : List (String × Expr) → List SubPipeline
  | [] => []
  | (_, value) :: rest => subPipelines value ++ subPipelinesOfEntries rest

end

mutual

def hasStructure : Expr → Bool
  | .pipeline .. | .defer _ => true
  | .array items => itemsHaveStructure items
  | .object entries => entriesHaveStructure entries
  | _ => false

def itemsHaveStructure : List Expr → Bool
  | [] => false
  | item :: rest => hasStructure item || itemsHaveStructure rest

def entriesHaveStructure : List (String × Expr) → Bool
  | [] => false
  | (_, value) :: rest => hasStructure value || entriesHaveStructure rest

end

def sameEnvironment : Option Context → Option Context → Bool
  | none, none => true
  | some a, some b => a.same b
  | _, _ => false

mutual

/-- Equality of config values, literals compared as JSON values. -/
def same : Expr → Expr → Bool
  | .literal a, .literal b => a.same b
  | .template e a, .template f b => decide (e = f) && decide (a = b)
  | .var a, .var b => decide (a = b)
  | .pipeline a e, .pipeline b f => sameSteps a b && sameEnvironment e f
  | .defer a, .defer b => same a b
  | .array xs, .array ys => sameItems xs ys
  | .object xs, .object ys => sameEntries xs ys
  | _, _ => false

def sameItems : List Expr → List Expr → Bool
  | [], [] => true
  | x :: xs, y :: ys => same x y && sameItems xs ys
  | _, _ => false

def sameEntries : List (String × Expr) → List (String × Expr) → Bool
  | [], [] => true
  | (k, x) :: xs, (l, y) :: ys => decide (k = l) && same x y && sameEntries xs ys
  | _, _ => false

def sameOption : Option Expr → Option Expr → Bool
  | none, none => true
  | some x, some y => same x y
  | _, _ => false

def sameSteps : List Step → List Step → Bool
  | [], [] => true
  | x :: xs, y :: ys => sameStep x y && sameSteps xs ys
  | _, _ => false

def sameStep : Step → Step → Bool
  | .mk id config outputKey onError condition engine label instanceId, other =>
    decide (id = other.id) && sameEntries config other.config &&
      decide (outputKey = other.outputKey) && decide (onError = other.onError) &&
      sameOption condition other.condition && decide (engine = other.templateEngine) &&
      decide (label = other.label) && decide (instanceId = other.instanceId)

end

end Expr
end BrickPipeline
