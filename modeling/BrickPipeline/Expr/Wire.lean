import BrickPipeline.Expr.Basic
import BrickPipeline.Wire

/-!
The wire form of config values and steps. An expression is an object tagged with `__type__`;
reading is strict, so an unknown tag is an error and not a literal.
-/
namespace BrickPipeline

open Wire (Read ReadError RecordType Field)

/-- The field that holds the tag of an expression. -/
def typeTag : String := "__type__"

/-- The field that holds what an expression is made of. -/
def valueTag : String := "__value__"

/-- The field that holds the bindings a sub-pipeline is closed over. -/
def environmentTag : String := "__env__"

def Engine.known : List (String × Engine) :=
  [("mustache", .mustache), ("nunjucks", .nunjucks), ("handlebars", .handlebars)]

/-- The record type of `OnError`. -/
def OnError.record : RecordType Json.Tree OnError :=
  ⟨"OnError", [⟨"alert", false, fun tree _ => return ⟨← Wire.bool tree⟩⟩]⟩

def OnError.read (origin : Wire.Origin) : Json.Tree → Read OnError :=
  OnError.record.read origin ⟨false⟩

def OnError.toJson (onError : OnError) : Json := .object [("alert", .bool onError.alert)]

namespace Step

/-- A step while its fields are being read. -/
structure Draft where
  id : Option BrickId
  config : Entries Expr
  outputKey : Option String
  onError : Option OnError
  condition : Option Expr
  templateEngine : Option Engine
  label : Option String
  instanceId : Option Uuid

def Draft.initial : Draft := ⟨none, [], none, none, none, none, none, none⟩

/-- The step, once its brick is known. -/
def Draft.finish (draft : Draft) : Read Step :=
  match draft.id with
  | some id =>
    .ok (.mk id draft.config draft.outputKey draft.onError draft.condition draft.templateEngine
      draft.label draft.instanceId)
  | none => .error (.missingField "id")

/-- The content of a field, readable as the kinds of value that a step's fields have. -/
structure Source where
  tree : Unit → Json.Tree
  config : Unit → Read (Entries Expr)
  value : Unit → Read Expr

/-- Read an optional config value; null is absence. -/
def Source.optionalValue (source : Source) : Read (Option Expr) :=
  match source.tree () with
  | .null => .ok none
  | _ => some <$> source.value ()

def fields (origin : Wire.Origin) : List (Field Source Draft) := [
  ⟨"id", true, fun s d => return { d with id := some (← Wire.brickId (s.tree ())) }⟩,
  ⟨"config", false, fun s d => return { d with config := ← s.config () }⟩,
  ⟨"outputKey", false, fun s d =>
    return { d with outputKey := ← Wire.optional Wire.string (s.tree ()) }⟩,
  ⟨"onError", false, fun s d =>
    return { d with onError := ← Wire.optional (OnError.read origin) (s.tree ()) }⟩,
  ⟨"if", false, fun s d => return { d with condition := ← s.optionalValue }⟩,
  ⟨"templateEngine", false, fun s d => return { d with
    templateEngine := ←
      Wire.optional (Wire.variant origin Engine.known) (s.tree ()) }⟩,
  ⟨"label", false, fun s d =>
    return { d with label := ← Wire.optional Wire.string (s.tree ()) }⟩,
  ⟨"instanceId", false, fun s d =>
    return { d with instanceId := ← Wire.optional Wire.uuid (s.tree ()) }⟩]

def record (origin : Wire.Origin) : RecordType Source Draft := ⟨"BrickConfig", fields origin⟩

def ofFields (origin : Wire.Origin) (sources : List (String × Source)) : Read Step := do
  ((← (record origin).ofFields .initial sources)).finish

/-- Read a step from an array of its fields. -/
def ofItems (origin : Wire.Origin) (sources : List Source) : Read Step := do
  ((← (record origin).ofItems origin .initial sources)).finish

end Step

namespace Expr

/-- A failure to read an expression, as a reason to refuse a field. -/
def refused {α : Type} : Except Error α → Read α
  | .ok value => .ok value
  | .error error => .error (.refused error.message)

def sourceText (kind : Kind) : Json → Except Error (Option String)
  | .null => .ok none
  | .string source => .ok (some source)
  | other => .error (.invalidExpression
      s!"{kind.tag} expression value must be a string, got {other.render}")

/-- The bindings that an expression object is closed over. -/
def environment (fields : Entries Json) : Except Error (Option Context) :=
  match Entries.get? environmentTag fields with
  | none | some .null => .ok none
  | some (.object bindings) => .ok (some ⟨bindings⟩)
  | some _ => .error (.invalidExpression "pipeline environment must be an object")

/-- A failure to read a pipeline inside an expression. -/
def invalidPipeline {α : Type} : Read α → Except Error α
  | .ok value => .ok value
  | .error fault => .error (.invalidExpression s!"invalid pipeline: {fault.message}")

def withoutContent (fields : Entries Json) : Kind → Except Error Expr
  | .template engine => .ok (.template engine none)
  | .var => .ok (.var none)
  | .pipeline => .pipeline [] <$> environment fields
  | .defer => .ok (.defer (.literal .null))

mutual

def fromJson : Json → Except Error Expr
  | .array items => .array <$> fromItems items
  | .object fields =>
    match Entries.get? typeTag fields with
    | none => .object <$> fromEntries fields
    | some (.string tag) =>
      match Kind.ofTag? tag with
      | some kind => fromContent kind fields fields
      | none => .error (.invalidExpression s!"unknown expression type '{tag}'")
    | some other =>
      .error (.invalidExpression s!"{typeTag} must be a string, got {other.render}")
  | value => .ok (.literal value)

def fromItems : List Json → Except Error (List Expr)
  | [] => .ok []
  | item :: rest => return (← fromJson item) :: (← fromItems rest)

def fromEntries : List (String × Json) → Except Error (List (String × Expr))
  | [] => .ok []
  | (key, value) :: rest => return (key, ← fromJson value) :: (← fromEntries rest)

/-- Read an expression of a kind; its content is looked for in the given fields. -/
def fromContent (kind : Kind) (all : Entries Json) :
    List (String × Json) → Except Error Expr
  | [] => withoutContent all kind
  | (key, content) :: rest =>
    if key = valueTag then
      match kind with
      | .template engine => .template engine <$> sourceText kind content
      | .var => .var <$> sourceText kind content
      | .pipeline => do
        let steps ← if content.isNull then .ok [] else invalidPipeline (readSteps content)
        return .pipeline steps (← environment all)
      | .defer => .defer <$> fromJson content
    else fromContent kind all rest

def readSteps : Json → Read (List Step)
  | .array items => readStepItems items
  | .null => Wire.mismatch .null "a sequence"
  | .bool b => Wire.mismatch (.bool b) "a sequence"
  | .number n => Wire.mismatch (.number n) "a sequence"
  | .string s => Wire.mismatch (.string s) "a sequence"
  | .object _ => Wire.mismatch (.object []) "a sequence"

def readStepItems : List Json → Read (List Step)
  | [] => .ok []
  | item :: rest => return (← readStep item) :: (← readStepItems rest)

def readStep : Json → Read Step
  | .object fields => Step.ofFields .value (fieldSources fields)
  | .array items => Step.ofItems .value (itemSources items)
  | .null => Wire.mismatch .null "struct BrickConfig"
  | .bool b => Wire.mismatch (.bool b) "struct BrickConfig"
  | .number n => Wire.mismatch (.number n) "struct BrickConfig"
  | .string s => Wire.mismatch (.string s) "struct BrickConfig"

/-- The fields of a step, ready to be read. -/
def fieldSources : List (String × Json) → List (String × Step.Source)
  | [] => []
  | (key, value) :: rest =>
    (key, ⟨fun _ => value.toTree, fun _ => readConfig value, fun _ => refused (fromJson value)⟩)
      :: fieldSources rest

/-- The items of a step in array form, ready to be read. -/
def itemSources : List Json → List Step.Source
  | [] => []
  | value :: rest =>
    ⟨fun _ => value.toTree, fun _ => readConfig value, fun _ => refused (fromJson value)⟩
      :: itemSources rest

def readConfig : Json → Read (Entries Expr)
  | .object fields => refused (fromEntries fields)
  | .null => Wire.mismatch .null "a map"
  | .bool b => Wire.mismatch (.bool b) "a map"
  | .number n => Wire.mismatch (.number n) "a map"
  | .string s => Wire.mismatch (.string s) "a map"
  | .array _ => Wire.mismatch (.array []) "a map"

end

def optionalField {α : Type} (key : String) (value : Option α) (toJson : α → Json) :
    List (String × Json) :=
  match value with
  | some value => [(key, toJson value)]
  | none => []

mutual

def toJson : Expr → Json
  | .literal value => value
  | .template engine source =>
    .object [(typeTag, .string engine.name), (valueTag, Json.ofOption source)]
  | .var path => .object [(typeTag, .string "var"), (valueTag, Json.ofOption path)]
  | .pipeline steps environment =>
    .object (optionalField environmentTag environment Context.toJson ++
      [(typeTag, .string "pipeline"), (valueTag, .array (stepsToJson steps))])
  | .defer inner => .object [(typeTag, .string "defer"), (valueTag, toJson inner)]
  | .array items => .array (itemsToJson items)
  | .object entries => .object (entriesToJson entries)

def itemsToJson : List Expr → List Json
  | [] => []
  | item :: rest => toJson item :: itemsToJson rest

def entriesToJson : List (String × Expr) → List (String × Json)
  | [] => []
  | (key, value) :: rest => (key, toJson value) :: entriesToJson rest

def conditionToJson : Option Expr → List (String × Json)
  | some value => [("if", toJson value)]
  | none => []

def stepsToJson : List Step → List Json
  | [] => []
  | step :: rest => stepToJson step :: stepsToJson rest

/-- The wire form of a step; absent options are left out. -/
def stepToJson : Step → Json
  | .mk id config outputKey onError condition engine label instanceId =>
    .object ([("config", .object (entriesToJson config)), ("id", .string id.text)] ++
      conditionToJson condition ++
      optionalField "instanceId" instanceId (.string ·.text) ++
      optionalField "label" label .string ++
      optionalField "onError" onError OnError.toJson ++
      optionalField "outputKey" outputKey .string ++
      optionalField "templateEngine" engine (.string ·.name))

end

end Expr

namespace SubPipeline

def toConfig (sub : SubPipeline) : Expr := .pipeline sub.steps sub.environment

def toJson (sub : SubPipeline) : Json := sub.toConfig.toJson

def fromJson (value : Json) : Except Error SubPipeline := do
  match ← Expr.fromJson value with
  | .pipeline steps environment => return ⟨steps, environment⟩
  | _ => .error (.invalidExpression "expected a pipeline expression")

end SubPipeline

namespace Step

/-- The content of a field in a text, whose order and repetitions count. -/
def Source.ofTree (tree : Json.Tree) : Source where
  tree := fun _ => tree
  config := fun _ =>
    match tree with
    | .object fields => do
      return Entries.ofList (← fields.mapM fun (key, tree) => do
        return (key, ← Expr.refused (Expr.fromJson (← Wire.json tree))))
    | tree => Wire.mismatch tree "a map"
  value := fun _ => do Expr.refused (Expr.fromJson (← Wire.json tree))

def read (origin : Wire.Origin) : Json.Tree → Read Step
  | .object fields => ofFields origin (fields.map fun (key, tree) => (key, .ofTree tree))
  | .array items => ofItems origin (items.map .ofTree)
  | tree => Wire.mismatch tree "struct BrickConfig"

def toJson (step : Step) : Json := Expr.stepToJson step

end Step

/-- Read the steps of a pipeline from a tree. -/
def Pipeline.read (origin : Wire.Origin) : Json.Tree → Read Pipeline :=
  Wire.list (Step.read origin)

def Pipeline.toJson (steps : Pipeline) : Json := .array (Expr.stepsToJson steps)

end BrickPipeline
