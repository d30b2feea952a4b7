import BrickPipeline.Error
import BrickPipeline.Ident.Uuid
import BrickPipeline.Json.Cursor

/-!
Reading typed values from JSON trees. A record may be written as an object or as an array of its
fields in declaration order; unknown fields are ignored, and the first fault in reading order is
the one reported.
-/
namespace BrickPipeline.Wire

/-- Why a typed value could not be read. -/
inductive ReadError where
  | missingField (field : String)
  | duplicateField (field : String)
  | mismatch (found expected : String)
  | unknownVariant (variant : String) (known : List String)
  | invalidLength (length : Nat) (expected : String)
  /-- A value of the right shape was refused, for the given reason. -/
  | refused (reason : String)
  /-- The text is no JSON text. -/
  | flaw (reason : Json.Flaw)
deriving DecidableEq, Inhabited

/-- Names in backquotes, as a choice. -/
def choice : List String → String
  | [] => "nothing"
  | [a] => "`" ++ a ++ "`"
  | [a, b] => "`" ++ a ++ "` or `" ++ b ++ "`"
  | names => "one of " ++ ", ".intercalate (names.map fun name => "`" ++ name ++ "`")

def ReadError.message : ReadError → String
  | .missingField field => "missing field `" ++ field ++ "`"
  | .duplicateField field => "duplicate field `" ++ field ++ "`"
  | .mismatch found expected => s!"invalid type: {found}, expected {expected}"
  | .unknownVariant variant known =>
    "unknown variant `" ++ variant ++ "`, expected " ++ choice known
  | .invalidLength length expected => s!"invalid length {length}, expected {expected}"
  | .refused reason => reason
  | .flaw reason => reason.message

abbrev Read (α : Type) := Except ReadError α

/-- Whether a tree comes from a value in memory or from a text. -/
inductive Origin where
  | value
  | text
deriving DecidableEq

open Json (Tree)

def mismatch {α : Type} (tree : Tree) (expected : String) : Read α :=
  .error (.mismatch tree.describe expected)

def string : Tree → Read String
  | .string s => .ok s
  | tree => mismatch tree "a string"

def bool : Tree → Read Bool
  | .bool b => .ok b
  | tree => mismatch tree "a boolean"

/-- Read an optional value; null is absence. -/
def optional {α : Type} (read : Tree → Read α) : Tree → Read (Option α)
  | .null => .ok none
  | tree => some <$> read tree

def list {α : Type} (read : Tree → Read α) : Tree → Read (List α)
  | .array items => items.mapM read
  | tree => mismatch tree "a sequence"

def json (tree : Tree) : Read Json :=
  match tree.toJson? with
  | some value => .ok value
  | none => .error (.flaw .noValue)

def map : Tree → Read (Entries Json)
  | .object fields => do
    return Entries.ofList (← fields.mapM fun (key, tree) => return (key, ← json tree))
  | tree => mismatch tree "a map"

def brickId (tree : Tree) : Read BrickId := do
  let text ← string tree
  (BrickId.parse text).mapError fun fault => .refused fault.message

def uuid : Tree → Read Uuid
  | .string s =>
    match Uuid.parse? s with
    | some id => .ok id
    | none => .error (.refused "UUID parsing failed")
  | tree => mismatch tree "a formatted UUID string"

def variantNamed {α : Type} (known : List (String × α)) (name : String) : Read α :=
  match known.lookup name with
  | some variant => .ok variant
  | none => .error (.unknownVariant name (known.map Prod.fst))

/-- Read a variant without content: its name, or an object that maps its name to null. -/
def variant {α : Type} (origin : Origin) (known : List (String × α)) : Tree → Read α
  | .string name => variantNamed known name
  | .object [(name, content)] => do
    let variant ← variantNamed known name
    match content with
    | .null => .ok variant
    | content => mismatch content "unit"
  | .object ((name, _) :: _) => do
    if origin = .text then
      let _ ← variantNamed known name
    .error (.refused "invalid value: map, expected map with a single key")
  | .object [] => .error (.refused "invalid value: map, expected map with a single key")
  | tree => mismatch tree "string or map"

/-- Read a variant that stands first in an array: its name and nothing else. -/
def variantName {α : Type} (known : List (String × α)) : Tree → Read α
  | .string name => variantNamed known name
  | tree => mismatch tree "variant identifier"

/-- An array of `count` elements must have been used up. -/
def usedUp {ι : Type} (origin : Origin) (count : Nat) (rest : List ι) : Read Unit :=
  if rest.isEmpty then .ok ()
  else match origin with
    | .value => .error (.invalidLength count "fewer elements in array")
    | .text => .error (.flaw .trailing)

/-- A field of a record under construction: its name, and how its content is taken up. -/
structure Field (ι σ : Type) where
  name : String
  required : Bool
  take : ι → σ → Read σ

/-- A record type: its name and its fields in declaration order. -/
structure RecordType (ι σ : Type) where
  name : String
  fields : List (Field ι σ)

/-- What a record in array form is expected to be. -/
def elementsText (name : String) (count : Nat) : String :=
  s!"struct {name} with {count} element" ++ (if count = 1 then "" else "s")

namespace RecordType

variable {ι σ : Type}

def field? (record : RecordType ι σ) (name : String) : Option (Field ι σ) :=
  record.fields.find? (·.name == name)

/-- Take up fields in the order in which they are written. -/
def takeFields (record : RecordType ι σ) : List (String × ι) → List String → σ →
    Read (List String × σ)
  | [], seen, state => .ok (seen, state)
  | (name, content) :: rest, seen, state =>
    match record.field? name with
    | none => takeFields record rest seen state
    | some field =>
      if seen.contains name then .error (.duplicateField name)
      else do takeFields record rest (name :: seen) (← field.take content state)

/-- Read the record from its fields; what is required must be there. -/
def ofFields (record : RecordType ι σ) (initial : σ) (fields : List (String × ι)) : Read σ := do
  let (seen, state) ← record.takeFields fields [] initial
  match record.fields.find? fun field => field.required && !seen.contains field.name with
  | some field => .error (.missingField field.name)
  | none => .ok state

/-- Take up contents in declaration order; `index` counts the fields before. -/
def takeItems (record : RecordType ι σ) (index : Nat) : List (Field ι σ) → List ι → σ →
    Read (List ι × σ)
  | [], items, state => .ok (items, state)
  | field :: fields, [], state =>
    if field.required then
      .error (.invalidLength index (elementsText record.name record.fields.length))
    else takeItems record (index + 1) fields [] state
  | field :: fields, item :: items, state => do
    takeItems record (index + 1) fields items (← field.take item state)

/-- Read the record from an array of its fields. -/
def ofItems (record : RecordType ι σ) (origin : Origin) (initial : σ) (items : List ι) :
    Read σ := do
  let (rest, state) ← record.takeItems 0 record.fields items initial
  usedUp origin items.length rest
  return state

def read (record : RecordType Tree σ) (origin : Origin) (initial : σ) : Tree → Read σ
  | .object fields => record.ofFields initial fields
  | .array items => record.ofItems origin initial items
  | tree => mismatch tree ("struct " ++ record.name)

end RecordType

/-- A variant of a tagged type: its name and how its content is read. -/
structure Tagged (α : Type) where
  name : String
  /-- Reads the content field; nothing if the field is absent. -/
  content : Option Tree → Read α

/-- The first content of a field and whether the field is repeated. -/
def uniqueField (name : String) (fields : List (String × Tree)) : Read (Option Tree) :=
  match fields.filter (·.1 == name) with
  | [] => .ok none
  | [(_, tree)] => .ok (some tree)
  | _ => .error (.duplicateField name)

def taggedText (typeName : String) : String := "adjacently tagged enum " ++ typeName

/-- Read a value whose variant stands in one field and whose content in another, or in an array
before its content. -/
def tagged {α : Type} (origin : Origin) (typeName tagField contentField : String)
    (variants : List (Tagged α)) : Tree → Read α
  | .object fields => do
    match ← uniqueField tagField fields with
    | none => .error (.missingField tagField)
    | some tag =>
      let chosen ← variant origin (variants.map fun v => (v.name, v)) tag
      chosen.content (← uniqueField contentField fields)
  | .array [] => .error (.invalidLength 0 (taggedText typeName))
  | .array (tag :: rest) => do
    let chosen ← variantName (variants.map fun v => (v.name, v)) tag
    match rest with
    | [] => .error (.invalidLength 1 (taggedText typeName))
    | content :: more => do
      let value ← chosen.content (some content)
      usedUp origin (rest.length + 1) more
      return value
  | tree => mismatch tree (taggedText typeName)

/-- Read a typed value from a text, or tell why not. The fault of a part counts only if the whole
text denotes a value. -/
def ofText {α : Type} (read : Tree → Read α) (source : String) : Except String α :=
  match Json.readTree? source with
  | none => .error Json.Flaw.noValue.message
  | some tree =>
    match read tree with
    | .ok value => .ok value
    | .error fault =>
      .error (if tree.toJson?.isSome then fault.message else Json.Flaw.noValue.message)

/-- The content of a variant that has none: absent or null. -/
def noContent {α : Type} (variantName : String) (result : α) : Option Tree → Read α
  | none | some .null => .ok result
  | some tree => mismatch tree ("unit variant " ++ variantName)

def someContent {α : Type} (contentField : String) (read : Tree → Read α) : Option Tree → Read α
  | none => .error (.missingField contentField)
  | some tree => read tree

end BrickPipeline.Wire
