import BrickPipeline.Json.Basic

/-!
JSON text of values: compact, and indented by two spaces a level.
-/
namespace BrickPipeline.Json

/-- The written form of a character inside a string: quote, backslash and controls are escaped. -/
def escapeChar (c : Char) : List Char :=
  match c with
  | '"' => ['\\', '"']
  | '\\' => ['\\', '\\']
  | '\n' => ['\\', 'n']
  | '\r' => ['\\', 'r']
  | '\t' => ['\\', 't']
  | '\x08' => ['\\', 'b']
  | '\x0c' => ['\\', 'f']
  | c =>
    if c.toNat < 32 then
      ['\\', 'u', '0', '0', Nat.digitChar (c.toNat / 16), Nat.digitChar (c.toNat % 16)]
    else [c]

def quote (s : String) : String :=
  String.ofList ('"' :: s.toList.flatMap escapeChar ++ ['"'])

def scalarText : Json → String
  | .null => "null"
  | .bool true => "true"
  | .bool false => "false"
  | .number n => n.text
  | .string s => quote s
  | .array _ => "[]"
  | .object _ => "\x7b\x7d"

mutual

/-- Compact text, without spaces. -/
def render : Json → String
  | .array items => "[" ++ renderItems items ++ "]"
  | .object fields => "\x7b" ++ renderFields fields ++ "\x7d"
  | scalar => scalarText scalar

def renderItems : List Json → String
  | [] => ""
  | [item] => render item
  | item :: rest => render item ++ "," ++ renderItems rest

def renderFields : List (String × Json) → String
  | [] => ""
  | [(key, value)] => quote key ++ ":" ++ render value
  | (key, value) :: rest => quote key ++ ":" ++ render value ++ "," ++ renderFields rest

end

/-- A line break and the indentation of a level. -/
def newline (level : Nat) : String :=
  String.ofList ('\n' :: List.replicate (2 * level) ' ')

mutual

/-- Indented text of a value that starts at a level; empty containers stay on one line. -/
def prettyAt (level : Nat) : Json → String
  | .array (item :: items) =>
    "[" ++ prettyItems (level + 1) (item :: items) ++ newline level ++ "]"
  | .object (field :: fields) =>
    "\x7b" ++ prettyFields (level + 1) (field :: fields) ++ newline level ++ "\x7d"
  | scalar => scalarText scalar

/-- Elements, one a line. -/
def prettyItems (level : Nat) : List Json → String
  | [] => ""
  | [item] => newline level ++ prettyAt level item
  | item :: rest => newline level ++ prettyAt level item ++ "," ++ prettyItems level rest

/-- Fields, one a line. -/
def prettyFields (level : Nat) : List (String × Json) → String
  | [] => ""
  | [(key, value)] => newline level ++ quote key ++ ": " ++ prettyAt level value
  | (key, value) :: rest =>
    newline level ++ quote key ++ ": " ++ prettyAt level value ++ "," ++ prettyFields level rest

end

def pretty (value : Json) : String := prettyAt 0 value

end BrickPipeline.Json
