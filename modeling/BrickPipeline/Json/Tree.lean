import BrickPipeline.Json.Printer
import BrickPipeline.Text.Quoted

/-!
JSON as it is written: fields in text order, repeated keys kept. A part that follows the grammar
of JSON but denotes no value (a number out of range, a lone surrogate, too deep a nesting) is
`illFormed`; it does no harm where nobody reads it.
-/
namespace BrickPipeline.Json

/-- A JSON text's structure. -/
inductive Tree where
  | null
  | bool (b : Bool)
  | number (n : Number)
  | string (s : String)
  | array (items : List Tree)
  | object (fields : List (String × Tree))
  | illFormed
deriving Inhabited

mutual

/-- The value that a tree denotes; the last of repeated keys wins. -/
def Tree.toJson? : Tree → Option Json
  | .null => some .null
  | .bool b => some (.bool b)
  | .number n => some (.number n)
  | .string s => some (.string s)
  | .array items => return .array (← Tree.itemsToJson? items)
  | .object fields => return ofFields (← Tree.fieldsToJson? fields)
  | .illFormed => none

def Tree.itemsToJson? : List Tree → Option (List Json)
  | [] => some []
  | x :: xs => return (← Tree.toJson? x) :: (← Tree.itemsToJson? xs)

/-- The values of the fields, in text order. -/
def Tree.fieldsToJson? : List (String × Tree) → Option (List (String × Json))
  | [] => some []
  | (key, x) :: xs => return (key, ← Tree.toJson? x) :: (← Tree.fieldsToJson? xs)

end

mutual

def toTree : Json → Tree
  | .null => .null
  | .bool b => .bool b
  | .number n => .number n
  | .string s => .string s
  | .array items => .array (itemsToTree items)
  | .object fields => .object (fieldsToTree fields)

def itemsToTree : List Json → List Tree
  | [] => []
  | x :: xs => toTree x :: itemsToTree xs

def fieldsToTree : List (String × Json) → List (String × Tree)
  | [] => []
  | (key, x) :: xs => (key, toTree x) :: fieldsToTree xs

end

/-- What a tree is, for messages about a type mismatch. -/
def Tree.describe : Tree → String
  | .null => "null"
  | .bool b => "boolean `" ++ (if b then "true" else "false") ++ "`"
  | .number (.integer n) => "integer `" ++ toString n ++ "`"
  | .number (.float x) => "floating point `" ++ Decimal.text .json x ++ "`"
  | .string s => "string " ++ Text.quoted s
  | .array _ => "sequence"
  | .object _ => "map"
  | .illFormed => "ill-formed value"

end BrickPipeline.Json
