import BrickPipeline.Brick.Registry

/-!
Diagnostics about documents, found without running them. The rules look at every step, steps of
sub-pipelines included, except where they say otherwise.
-/
namespace BrickPipeline

/-- How serious a diagnostic is. -/
inductive Severity where
  | error
  | warning
  | info
deriving DecidableEq

def Severity.name : Severity → String
  | .error => "error"
  | .warning => "warning"
  | .info => "info"

/-- Something to say about a document. -/
structure Diagnostic where
  rule : String
  severity : Severity
  message : String
  /-- The place of what the diagnostic is about. -/
  path : Option String
  fix : Option String
deriving DecidableEq

def Diagnostic.toJson (diagnostic : Diagnostic) : Json :=
  .object (Expr.optionalField "fix" diagnostic.fix .string ++
    [("message", .string diagnostic.message)] ++
    Expr.optionalField "path" diagnostic.path .string ++
    [("rule", .string diagnostic.rule), ("severity", .string diagnostic.severity.name)])

namespace Lint

variable {σ : Type}

def errorAt (rule message path : String) (fix : Option String) : Diagnostic :=
  ⟨rule, .error, message, some path, fix⟩

def unknownBrick (registry : Registry σ) (document : Document) : List Diagnostic :=
  (Pipeline.placedSteps document.pipeline).filterMap fun (path, step) =>
    if registry.has step.id.text then none
    else some (errorAt "unknown_brick" s!"Brick '{step.id}' is not registered" path none)

def isIdentifierStart (c : Char) : Bool := c.isAlpha || c == '_'

/-- A letter or underscore, then letters, digits and underscores. -/
def isIdentifier : List Char → Bool
  | [] => false
  | c :: cs => isIdentifierStart c && cs.all fun c => isIdentifierStart c || c.isDigit

/-- An identifier, after an at sign or not. -/
def isOutputKey (outputKey : String) : Bool :=
  match outputKey.toList with
  | '@' :: rest => isIdentifier rest
  | cs => isIdentifier cs

def invalidOutputKey (document : Document) : List Diagnostic :=
  (Pipeline.placedSteps document.pipeline).filterMap fun (path, step) => do
    let outputKey ← step.outputKey
    if isOutputKey outputKey then none
    else some (errorAt "invalid_output_key"
      s!"Output key '{outputKey}' is not a valid identifier" path
      (some "Use letters, digits and underscores, not starting with a digit"))

def dependencyPlace (index : Nat) : String := s!"integrationDependencies[{index}]"

/-- A diagnostic about an output key that is reserved. -/
def reservedAt (outputKey path : String) : Option Diagnostic :=
  if isReserved outputKey then
    some (errorAt "reserved_output_key"
      s!"Output key '{outputKey}' would shadow the reserved {bindingKey outputKey} binding"
      path none)
  else none

/-- Dependencies and steps leave the input and the options of the run alone. -/
def reservedOutputKey (document : Document) : List Diagnostic :=
  document.dependencies.zipIdx.filterMap (fun (dependency, index) =>
      reservedAt dependency.outputKey (dependencyPlace index)) ++
    (Pipeline.placedSteps document.pipeline).filterMap fun (path, step) => do
      reservedAt (← step.outputKey) path

/-- Steps of the pipeline itself take sub-pipelines and deferred values only in the third
version. -/
def controlFlowRequiresV3 (document : Document) : List Diagnostic :=
  if document.apiVersion.supportsControlFlow then []
  else document.pipeline.zipIdx.filterMap fun (step, index) =>
    if Expr.entriesHaveStructure step.config then
      some (errorAt "control_flow_requires_v3"
        (s!"Brick '{step.id}' uses pipeline or defer arguments, which " ++
          s!"{document.apiVersion.name} documents do not support")
        (Pipeline.stepPlace "pipeline" index) (some "Set apiVersion to v3"))
    else none

/-- The dependencies whose key is bound by one before, with their positions. -/
def repeatedKeys : List String → List (Dependency × Nat) → List (Dependency × Nat)
  | _, [] => []
  | seen, (dependency, index) :: rest =>
    if seen.contains dependency.bindingKey then (dependency, index) :: repeatedKeys seen rest
    else repeatedKeys (dependency.bindingKey :: seen) rest

def duplicateServiceKey (document : Document) : List Diagnostic :=
  (repeatedKeys [] document.dependencies.zipIdx).map fun (dependency, index) =>
    errorAt "duplicate_service_key"
      s!"Integration output key '{dependency.outputKey}' is declared more than once"
      (dependencyPlace index) none

def emptyPipeline (document : Document) : List Diagnostic :=
  if document.pipeline.isEmpty then
    [⟨"empty_pipeline", .warning, "Pipeline has no steps and always returns null", none, none⟩]
  else []

/-- All diagnostics, rule by rule. -/
def diagnose (registry : Registry σ) (document : Document) : List Diagnostic :=
  unknownBrick registry document ++ invalidOutputKey document ++ reservedOutputKey document ++
    controlFlowRequiresV3 document ++ duplicateServiceKey document ++ emptyPipeline document

/-- The diagnostics of a document without errors; errors make it invalid. -/
def check (registry : Registry σ) (document : Document) : Except Error (List Diagnostic) :=
  let diagnostics := diagnose registry document
  match (diagnostics.filter (·.severity = .error)).map (·.message) with
  | [] => .ok diagnostics
  | messages => .error (.invalidDocument ("; ".intercalate messages))

end Lint
end BrickPipeline
