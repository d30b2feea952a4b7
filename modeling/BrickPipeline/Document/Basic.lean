import BrickPipeline.Expr.Render
import BrickPipeline.Service.Basic

/-!
Pipeline documents: a pipeline, the version that decides how it is rendered, and what it needs to
run.
-/
namespace BrickPipeline

open Wire (Read RecordType)

/-- The version of a document. -/
inductive ApiVersion where
  | v1
  | v2
  | v3
deriving DecidableEq, Inhabited

namespace ApiVersion

def name : ApiVersion → String
  | .v1 => "v1"
  | .v2 => "v2"
  | .v3 => "v3"

def known : List (String × ApiVersion) := [("v1", .v1), ("v2", .v2), ("v3", .v3)]

def read (origin : Wire.Origin) : Json.Tree → Read ApiVersion := Wire.variant origin known

/-- The third version is explicit; the others are implicit, with mustache unless a step says
otherwise. -/
def renderMode (version : ApiVersion) (engine : Option Engine) : RenderMode :=
  match version with
  | .v3 => .explicit
  | .v1 | .v2 => .implicit (engine.getD .mustache)

/-- Sub-pipelines and deferred values are for the third version only. -/
def supportsControlFlow : ApiVersion → Bool
  | .v3 => true
  | .v1 | .v2 => false

end ApiVersion

/-- What a root-aware brick works on. -/
inductive Root where
  | document
  | element (selector : String)
deriving DecidableEq, Inhabited

namespace Root

/-- The root that a selector names; no selector is the document. -/
def ofSelector (selector : Option String) : Root :=
  match selector.map Text.trimmed with
  | none | some "" | some "document" => .document
  | some selector => .element selector

def text : Root → String
  | .document => "document"
  | .element selector => selector

def toJson : Root → Json
  | .document => .object [("type", .string "document")]
  | .element selector => .object [("selector", .string selector), ("type", .string "element")]

def read (origin : Wire.Origin) : Json.Tree → Read Root :=
  Wire.tagged origin "Root" "type" "selector" [
    ⟨"document", Wire.noContent "Root::Document" .document⟩,
    ⟨"element", Wire.someContent "selector" fun tree => .element <$> Wire.string tree⟩]

end Root

/-- What the steps of a run share. -/
structure RunInfo where
  apiVersion : ApiVersion
  root : Root
  deploymentId : Option String
  runId : Uuid
  services : BoundServices

/-- The settings of a run. -/
structure RunSettings extends RunInfo where
  /-- Bound as the options of the run; null stands for an empty object. -/
  modOptions : Json

namespace RunSettings

def new (version : ApiVersion) : RunSettings :=
  ⟨⟨version, .document, none, .nil, .empty⟩, .object []⟩

def context (options : RunSettings) (input : Json) : Context :=
  let modOptions := if options.modOptions.isNull then .object [] else options.modOptions
  (Context.initial input modOptions).bindAll options.services.bindings

end RunSettings

/-- A pipeline and what it needs to run. -/
structure Document where
  apiVersion : ApiVersion
  name : Option String
  pipeline : Pipeline
  dependencies : List Dependency
  deploymentId : Option String
  options : Json

namespace Document

def record (origin : Wire.Origin) : RecordType Json.Tree Document := ⟨"PipelineDocument", [
  ⟨"apiVersion", true, fun t d => return { d with apiVersion := ← ApiVersion.read origin t }⟩,
  ⟨"name", false, fun t d => return { d with name := ← Wire.optional Wire.string t }⟩,
  ⟨"pipeline", true, fun t d => return { d with pipeline := ← Pipeline.read origin t }⟩,
  ⟨"integrationDependencies", false, fun t d =>
    return { d with dependencies := ← Wire.list (Dependency.read origin) t }⟩,
  ⟨"deploymentId", false, fun t d =>
    return { d with deploymentId := ← Wire.optional Wire.string t }⟩,
  ⟨"options", false, fun t d => return { d with options := ← Wire.json t }⟩]⟩

def read (origin : Wire.Origin) : Json.Tree → Read Document :=
  (record origin).read origin ⟨.v3, none, [], [], none, .null⟩

def parse (source : String) : Except Error Document :=
  (Wire.ofText (read .text) source).mapError fun reason =>
    .invalidDocument s!"cannot parse document: {reason}"

/-- The wire form of a document; what is absent, empty or null is left out. -/
def toJson (document : Document) : Json :=
  .object ([("apiVersion", .string document.apiVersion.name)] ++
    Expr.optionalField "deploymentId" document.deploymentId .string ++
    (if document.dependencies.isEmpty then []
      else [("integrationDependencies", .array (document.dependencies.map Dependency.toJson))]) ++
    Expr.optionalField "name" document.name .string ++
    (if document.options.isNull then [] else [("options", document.options)]) ++
    [("pipeline", Pipeline.toJson document.pipeline)])

def settings (document : Document) (services : BoundServices) : RunSettings :=
  ⟨⟨document.apiVersion, .document, document.deploymentId, .nil, services⟩, document.options⟩

end Document
end BrickPipeline
