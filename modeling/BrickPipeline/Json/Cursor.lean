import BrickPipeline.Json.Reader

/-!
Places in a text that should be JSON, and what can be wrong there. A place is counted in bytes;
its line and column follow from the text.
-/
namespace BrickPipeline.Json

/-- What is wrong at a place of a text that is not JSON. -/
inductive Flaw where
  | endInList
  | endInObject
  | endInString
  | endInValue
  | noColon
  /-- Neither another element nor the end of the list follows. -/
  | noListEnd
  /-- Neither another field nor the end of the object follows. -/
  | noObjectEnd
  /-- A word that starts like `null`, `true` or `false` goes on differently. -/
  | badWord
  | noValue
  | badEscape
  | badNumber
  | outOfRange
  | controlCharacter
  | keyNotString
  | loneSurrogate
  /-- The first half of a surrogate pair is not followed by an escape. -/
  | halfPair
  | trailingComma
  | trailing
  | tooDeep
deriving DecidableEq, Inhabited

def Flaw.message : Flaw → String
  | .endInList => "EOF while parsing a list"
  | .endInObject => "EOF while parsing an object"
  | .endInString => "EOF while parsing a string"
  | .endInValue => "EOF while parsing a value"
  | .noColon => "expected `:`"
  | .noListEnd => "expected `,` or `]`"
  | .noObjectEnd => "expected `,` or `\x7d`"
  | .badWord => "expected ident"
  | .noValue => "expected value"
  | .badEscape => "invalid escape"
  | .badNumber => "invalid number"
  | .outOfRange => "number out of range"
  | .controlCharacter =>
    "control character (\\u0000-\\u001F) found while parsing a string"
  | .keyNotString => "key must be a string"
  | .loneSurrogate => "lone leading surrogate in hex escape"
  | .halfPair => "unexpected end of hex escape"
  | .trailingComma => "trailing comma"
  | .trailing => "trailing characters"
  | .tooDeep => "recursion limit exceeded"

/-- A flaw and the bytes before it. -/
structure Fault where
  flaw : Flaw
  offset : Nat
deriving DecidableEq, Inhabited

/-- A line, counted from one, and the bytes before a place in it. -/
structure Position where
  line : Nat
  column : Nat
deriving DecidableEq, Inhabited

namespace Position

def start : Position := ⟨1, 0⟩

/-- The place some bytes further on, or the end of the text. -/
def advance : Position → Nat → List Char → Position
  | place, _, [] => place
  | place, bytes, c :: rest =>
    if bytes < c.utf8Size then { place with column := place.column + bytes }
    else if c = '\n' then advance ⟨place.line + 1, 0⟩ (bytes - 1) rest
    else advance { place with column := place.column + c.utf8Size } (bytes - c.utf8Size) rest

def ofOffset (text : String) (offset : Nat) : Position := start.advance offset text.toList

def text (place : Position) : String := s!"line {place.line} column {place.column}"

end Position

/-- What is left of a text, and the bytes before it. -/
structure Cursor where
  rest : List Char
  offset : Nat
deriving Inhabited

namespace Cursor

def start (text : String) : Cursor := ⟨text.toList, 0⟩

def next (c : Cursor) : Cursor :=
  match c.rest with
  | [] => c
  | x :: rest => ⟨rest, c.offset + x.utf8Size⟩

/-- Past the characters of a class, each of one byte. -/
def dropWhile (p : Char → Bool) (c : Cursor) : Cursor :=
  ⟨c.rest.dropWhile p, c.offset + (c.rest.takeWhile p).length⟩

def skip (c : Cursor) : Cursor := c.dropWhile Reader.isSpace

def skipDigits (c : Cursor) : Cursor := c.dropWhile Char.isDigit

/-- One byte further on, or the end of the text. -/
def ahead (c : Cursor) : Nat := if c.rest.isEmpty then c.offset else c.offset + 1

def failHere {α : Type} (c : Cursor) (flaw : Flaw) : Except Fault α := .error ⟨flaw, c.offset⟩

def fail {α : Type} (c : Cursor) (flaw : Flaw) : Except Fault α := .error ⟨flaw, c.ahead⟩

def bytesLeft (c : Cursor) : Nat := c.rest.foldr (fun char bytes => char.utf8Size + bytes) 0

end Cursor
end BrickPipeline.Json
