import BrickPipeline.Brick.Basic

/-!
Arguments of the built-in bricks: the schemas that describe them, and how they are read.
-/
namespace BrickPipeline.Arguments

/-- The schema of an argument that holds a sub-pipeline. -/
def pipelineSchema : Json :=
  .object [("required", .array [.string typeTag]), ("type", .string "object")]

def stringSchema : Json := .object [("type", .string "string")]

def countSchema : Json := .object [("minimum", .nat 0), ("type", .string "integer")]

def wordSchema (words : List String) : Json :=
  .object [("enum", .array (words.map Json.string)), ("type", .string "string")]

/-- The schema of an object with described properties, some of them required. -/
def schema (properties : List (String × Json)) (required : List String) : Json :=
  .object [("properties", Json.ofFields properties),
    ("required", .array (required.map Json.string)), ("type", .string "object")]

/-- A sub-pipeline argument; missing or null is none. -/
def subPipeline? (brickId : BrickId) (args : Json) (name : String) :
    Except Error (Option SubPipeline) :=
  match args.get? name with
  | none | some .null => .ok none
  | some value =>
    match SubPipeline.fromJson value with
    | .ok sub => .ok (some sub)
    | .error error => .error (.invalidArgument brickId name error.message)

def subPipeline (brickId : BrickId) (args : Json) (name : String) :
    Except Error SubPipeline := do
  match ← subPipeline? brickId args name with
  | some sub => return sub
  | none => .error (.invalidArgument brickId name "a pipeline is required")

/-- An argument that names a binding: a string with more than blanks in it. -/
def keyArgument (brickId : BrickId) (args : Json) (name default : String) :
    Except Error String :=
  match args.get? name with
  | none | some .null => .ok default
  | some (.string key) =>
    if (Text.trimmed key).isEmpty then
      .error (.invalidArgument brickId name
        s!"expected a non-empty string, got {(Json.string key).render}")
    else .ok (Text.trimmed key)
  | some other =>
    .error (.invalidArgument brickId name s!"expected a non-empty string, got {other.render}")

def count (brickId : BrickId) (args : Json) (name : String) (default : Nat) :
    Except Error Nat :=
  match args.get? name with
  | none | some .null => .ok default
  | some value =>
    match value.asNat? with
    | some n => .ok n
    | none => .error (.invalidArgument brickId name
        s!"expected a non-negative integer, got {value.render}")

def string? (args : Json) (name : String) : Option String := do (← args.get? name).asString?

end BrickPipeline.Arguments
