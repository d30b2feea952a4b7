import BrickPipeline.Json.Tree
import BrickPipeline.Text.Scan

/-!
Reading JSON text. The grammar is strict: no comments, no trailing commas, nothing behind the
value.
-/
namespace BrickPipeline.Json.Reader

def isSpace (c : Char) : Bool := c == ' ' || c == '\n' || c == '\t' || c == '\r'

def skip (cs : List Char) : List Char := cs.dropWhile isSpace

def hexValue? (c : Char) : Option Nat :=
  if c.isDigit then some (c.toNat - '0'.toNat)
  else if 'a' ≤ c && c ≤ 'f' then some (c.toNat - 'a'.toNat + 10)
  else if 'A' ≤ c && c ≤ 'F' then some (c.toNat - 'A'.toNat + 10)
  else none

def hex4? (a b c d : Char) : Option Nat := do
  return ((← hexValue? a) * 16 + (← hexValue? b)) * 256 + (← hexValue? c) * 16 + (← hexValue? d)

def escaped? : Char → Option Char
  | '"' => some '"'
  | '\\' => some '\\'
  | '/' => some '/'
  | 'b' => some '\x08'
  | 'f' => some '\x0c'
  | 'n' => some '\n'
  | 'r' => some '\r'
  | 't' => some '\t'
  | _ => none

def isHighSurrogate (n : Nat) : Bool := 0xd800 ≤ n && n ≤ 0xdbff

def isLowSurrogate (n : Nat) : Bool := 0xdc00 ≤ n && n ≤ 0xdfff

def ofSurrogates (high low : Nat) : Char :=
  Char.ofNat (0x10000 + (high - 0xd800) * 0x400 + (low - 0xdc00))

/-- What stands between quotes: the text, or nothing if a surrogate stands alone. -/
structure Quoted where
  text : Option String
  rest : List Char

/--
Read the inside of a string up to its closing quote. `seen` holds the characters in reverse;
`whole` turns false at a lone surrogate.
-/
def chars (whole : Bool) (seen : List Char) : List Char → Option Quoted
  | [] => none
  | '"' :: rest => some ⟨if whole then some (String.ofList seen.reverse) else none, rest⟩
  | '\\' :: 'u' :: a :: b :: c :: d :: '\\' :: 'u' :: e :: f :: g :: h :: rest => do
    let unit ← hex4? a b c d
    if isHighSurrogate unit then
      match hex4? e f g h with
      | some low =>
        if isLowSurrogate low then chars whole (ofSurrogates unit low :: seen) rest
        else chars false seen ('\\' :: 'u' :: e :: f :: g :: h :: rest)
      | none => none
    else if isLowSurrogate unit then
      chars false seen ('\\' :: 'u' :: e :: f :: g :: h :: rest)
    else chars whole (Char.ofNat unit :: seen) ('\\' :: 'u' :: e :: f :: g :: h :: rest)
  | '\\' :: 'u' :: a :: b :: c :: d :: rest => do
    let unit ← hex4? a b c d
    if isHighSurrogate unit || isLowSurrogate unit then chars false seen rest
    else chars whole (Char.ofNat unit :: seen) rest
  | '\\' :: c :: rest => do
    chars whole ((← escaped? c) :: seen) rest
  | c :: rest => if c.toNat < 32 then none else chars whole (c :: seen) rest

/-- A significand of at most 64 bits and the places it is scaled by. -/
structure Significand where
  value : Nat
  places : Int

/-- The first value that does not fit a significand. -/
def significandBound : Nat := Nat.pow 2 64

/-- Take up digits before the point; once one does not fit, every later one counts a place. -/
def Significand.whole : Significand → List Char → Significand
  | s, [] => s
  | s, c :: rest =>
    let next := s.value * 10 + (c.toNat - '0'.toNat)
    if next < significandBound then whole { s with value := next } rest
    else { s with places := s.places + (rest.length + 1 : Nat) }

/-- Take up digits behind the point; once one does not fit, the rest is dropped. -/
def Significand.fraction : Significand → List Char → Significand
  | s, [] => s
  | s, c :: rest =>
    let next := s.value * 10 + (c.toNat - '0'.toNat)
    if next < significandBound then fraction ⟨next, s.places - 1⟩ rest else s

/-- The number of a literal without a point and an exponent. -/
def integerLiteral (negative : Bool) (digits : List Char) : Option Number :=
  let n := Text.digitsValue digits
  if negative = false ∧ n < Nat.pow 2 64 then some (.integer n)
  else if negative = true ∧ 0 < n ∧ n ≤ Nat.pow 2 63 then some (.integer (-n))
  else
    let s := Significand.whole ⟨0, 0⟩ digits
    (Double.ofLiteral? negative s.value s.places).map .float

def digits (cs : List Char) : List Char × List Char :=
  (cs.takeWhile Char.isDigit, cs.dropWhile Char.isDigit)

/-- An exponent's value and the rest; no exponent is none. -/
def exponent? : List Char → Option (Option Int × List Char)
  | 'e' :: rest | 'E' :: rest =>
    let (negative, rest) := match rest with
      | '+' :: rest => (false, rest)
      | '-' :: rest => (true, rest)
      | _ => (false, rest)
    let (ds, rest) := digits rest
    if ds.isEmpty then none
    else
      let n : Int := Text.digitsValue ds
      some (some (if negative then -n else n), rest)
  | rest => some (none, rest)

/-- The digits behind a point and the rest; no point is none. -/
def fraction? : List Char → Option (Option (List Char) × List Char)
  | '.' :: rest =>
    let (ds, rest) := digits rest
    if ds.isEmpty then none else some (some ds, rest)
  | rest => some (none, rest)

def numberTree : Option Number → Tree
  | some n => .number n
  | none => .illFormed

def unsigned (negative : Bool) (cs : List Char) : Option (Tree × List Char) := do
  let (ds, rest) := digits cs
  if ds.isEmpty || (ds.head? = some '0' && 1 < ds.length) then none
  else
    let (fraction, rest) ← fraction? rest
    let (exponent, rest) ← exponent? rest
    match fraction, exponent with
    | none, none => some (numberTree (integerLiteral negative ds), rest)
    | _, _ =>
      let s := (Significand.whole ⟨0, 0⟩ ds).fraction (fraction.getD [])
      let x := Double.ofLiteral? negative s.value (s.places + exponent.getD 0)
      some (numberTree (x.map .float), rest)

def number : List Char → Option (Tree × List Char)
  | '-' :: rest => unsigned true rest
  | cs => unsigned false cs

def atDepth (room : Nat) (tree : Tree) : Tree := if room = 0 then .illFormed else tree

mutual

/-- Read a value. `room` is the number of containers that may still be opened. -/
def value : Nat → Nat → List Char → Option (Tree × List Char)
  | 0, _, _ => none
  | fuel + 1, room, cs =>
    match skip cs with
    | 'n' :: 'u' :: 'l' :: 'l' :: rest => some (.null, rest)
    | 't' :: 'r' :: 'u' :: 'e' :: rest => some (.bool true, rest)
    | 'f' :: 'a' :: 'l' :: 's' :: 'e' :: rest => some (.bool false, rest)
    | '"' :: rest => do
      let quoted ← chars true [] rest
      return ((quoted.text.map Tree.string).getD .illFormed, quoted.rest)
    | '[' :: rest =>
      match skip rest with
      | ']' :: rest => some (atDepth room (.array []), rest)
      | rest => do
        let (items, rest) ← elements fuel (room - 1) rest
        return (atDepth room (.array items), rest)
    | '{' :: rest =>
      match skip rest with
      | '}' :: rest => some (atDepth room (.object []), rest)
      | rest => do
        let (fields, rest) ← members fuel (room - 1) rest
        return (atDepth room ((fields.map Tree.object).getD .illFormed), rest)
    | cs => number cs

def elements : Nat → Nat → List Char → Option (List Tree × List Char)
  | 0, _, _ => none
  | fuel + 1, room, cs => do
    let (item, rest) ← value fuel room cs
    match skip rest with
    | ',' :: rest => do
      let (items, rest) ← elements fuel room rest
      return (item :: items, rest)
    | ']' :: rest => some ([item], rest)
    | _ => none

/-- Read fields up to the closing brace; no fields when a key holds a lone surrogate. -/
def members : Nat → Nat → List Char → Option (Option (List (String × Tree)) × List Char)
  | 0, _, _ => none
  | fuel + 1, room, cs =>
    match skip cs with
    | '"' :: rest => do
      let key ← chars true [] rest
      match skip key.rest with
      | ':' :: rest => do
        let (item, rest) ← value fuel room rest
        let field := key.text.map fun key => (key, item)
        match skip rest with
        | ',' :: rest => do
          let (fields, rest) ← members fuel room rest
          return (do return (← field) :: (← fields), rest)
        | '}' :: rest => some (field.map fun field => [field], rest)
        | _ => none
      | _ => none
    | _ => none

end

/-- The deepest nesting of containers that is read by default. -/
def defaultRoom : Nat := 127

/-- The tree of a text, or nothing if the text does not follow the grammar. -/
def readTree? (room : Nat) (text : String) : Option Tree :=
  let cs := text.toList
  match value (2 * cs.length + 2) room cs with
  | some (tree, rest) => if (skip rest).isEmpty then some tree else none
  | none => none

end Reader

/-- The tree of a text in which containers nest at most 127 deep. -/
def readTree? (text : String) : Option Tree := Reader.readTree? Reader.defaultRoom text

def read? (text : String) : Option Json := do (← readTree? text).toJson?

end BrickPipeline.Json
