import BrickPipeline.Json.Cursor

/-!
Reading a JSON text from left to right up to its first flaw. What is read as a value must denote
one; what is passed over only has to follow the grammar.
-/
namespace BrickPipeline.Json.Scan

abbrev Result (α : Type) := Except Fault α

def word : List Char → Cursor → Result Cursor
  | [], c => .ok c
  | x :: xs, c =>
    match c.rest with
    | [] => c.failHere .endInValue
    | y :: _ => if x = y then word xs c.next else c.fail .badWord

/-! Strings. -/

/-- The fault of four bytes that are no hexadecimal digits, or of fewer. -/
def hexFault (c : Cursor) : Fault :=
  if c.bytesLeft < 4 then ⟨.endInString, c.offset + c.bytesLeft⟩ else ⟨.badEscape, c.offset + 4⟩

def hexUnit (c : Cursor) : Result (Nat × Cursor) :=
  match c.rest with
  | x :: y :: z :: w :: rest =>
    match Reader.hex4? x y z w with
    | some unit => .ok (unit, ⟨rest, c.offset + 4⟩)
    | none => .error (hexFault c)
  | _ => .error (hexFault c)

/-- Read a character that the second half of a surrogate pair cannot do without. -/
def pairMark (mark : Char) (c : Cursor) : Result Cursor :=
  match c.rest with
  | [] => c.failHere .endInString
  | x :: _ => if x = mark then .ok c.next else c.fail .halfPair

/-- Read the character that one or two code units stand for. -/
def unicodeEscape (c : Cursor) : Result (Char × Cursor) := do
  let (unit, c) ← hexUnit c
  if Reader.isLowSurrogate unit then c.failHere .loneSurrogate
  else if Reader.isHighSurrogate unit then
    let c ← pairMark '\\' c
    let c ← pairMark 'u' c
    let (low, c) ← hexUnit c
    if Reader.isLowSurrogate low then .ok (Reader.ofSurrogates unit low, c)
    else c.failHere .loneSurrogate
  else .ok (Char.ofNat unit, c)

/-- Read the character that an escape stands for, behind the backslash. -/
def escape (c : Cursor) : Result (Char × Cursor) :=
  match c.rest with
  | [] => c.failHere .endInString
  | 'u' :: _ => unicodeEscape c.next
  | x :: _ =>
    match Reader.escaped? x with
    | some y => .ok (y, c.next)
    | none => c.fail .badEscape

/-- Read characters up to the closing quote. `seen` holds those before in reverse. -/
def chars : Nat → List Char → Cursor → Result (String × Cursor)
  | 0, _, c => c.failHere .endInString
  | fuel + 1, seen, c =>
    match c.rest with
    | [] => c.failHere .endInString
    | '"' :: _ => .ok (String.ofList seen.reverse, c.next)
    | '\\' :: _ =>
      match escape c.next with
      | .ok (x, c) => chars fuel (x :: seen) c
      | .error fault => .error fault
    | x :: _ =>
      if x.toNat < 32 then c.fail .controlCharacter else chars fuel (x :: seen) c.next

def string (c : Cursor) : Result (String × Cursor) := chars (c.rest.length + 1) [] c

/-- Pass over an escape, behind the backslash; surrogates need not be paired. -/
def passEscape (c : Cursor) : Result Cursor :=
  match c.rest with
  | [] => c.failHere .endInString
  | 'u' :: _ => Prod.snd <$> hexUnit c.next
  | x :: _ => if (Reader.escaped? x).isSome then .ok c.next else c.fail .badEscape

def passChars : Nat → Cursor → Result Cursor
  | 0, c => c.failHere .endInString
  | fuel + 1, c =>
    match c.rest with
    | [] => c.failHere .endInString
    | '"' :: _ => .ok c.next
    | '\\' :: _ =>
      match passEscape c.next with
      | .ok c => passChars fuel c
      | .error fault => .error fault
    | x :: _ => if x.toNat < 32 then c.failHere .controlCharacter else passChars fuel c.next

def passString (c : Cursor) : Result Cursor := passChars (c.rest.length + 1) c

/-! Numbers. -/

/-- The parts of a number as it is written, and where the digits of the exponent start. -/
structure Literal where
  whole : List Char
  fraction : Option (List Char)
  exponent : Option (Bool × List Char)
  exponentStart : Nat

/-- Read the digits that a part of a number must have; `onEnd` is the flaw of a text that ends
before them. -/
def someDigits (onEnd : Flaw) (c : Cursor) : Result (List Char × Cursor) :=
  let digits := c.rest.takeWhile Char.isDigit
  if digits.isEmpty then c.fail (if c.rest.isEmpty then onEnd else .badNumber)
  else .ok (digits, c.skipDigits)

/-- Read the digits before the point; a zero stands alone. -/
def wholeDigits (onEnd : Flaw) (c : Cursor) : Result (List Char × Cursor) :=
  match c.rest with
  | '0' :: x :: _ => if x.isDigit then c.next.fail .badNumber else .ok (['0'], c.next)
  | _ => someDigits onEnd c

/-- Read the point and the digits behind it, if there is a point. -/
def fractionDigits (onEnd : Flaw) (c : Cursor) : Result (Option (List Char) × Cursor) := do
  match c.rest with
  | '.' :: _ =>
    let (digits, c) ← someDigits onEnd c.next
    return (some digits, c)
  | _ => return (none, c)

/-- Read an exponent's sign and digits behind its mark; true is a minus. -/
def exponentDigits (onEnd : Flaw) (c : Cursor) : Result ((Bool × List Char) × Cursor) := do
  let (negative, c) := match c.rest with
    | '+' :: _ => (false, c.next)
    | '-' :: _ => (true, c.next)
    | _ => (false, c)
  let (digits, c) ← someDigits onEnd c
  return ((negative, digits), c)

/-- Read a number as it is written, behind its sign. -/
def literal (onEnd : Flaw) (c : Cursor) : Result (Literal × Cursor) := do
  let (whole, c) ← wholeDigits onEnd c
  let (fraction, c) ← fractionDigits onEnd c
  match c.rest with
  | 'e' :: _ | 'E' :: _ =>
    let (exponent, c) ← exponentDigits onEnd c.next
    return (⟨whole, fraction, some exponent, c.offset - exponent.2.length⟩, c)
  | _ => return (⟨whole, fraction, none, c.offset⟩, c)

def exponentBound : Nat := Nat.pow 2 31

/-- How many digits of an exponent are read until it is too large, if it ever is. -/
def tooLargeAfter? (value count : Nat) : List Char → Option Nat
  | [] => none
  | c :: rest =>
    let next := value * 10 + (c.toNat - '0'.toNat)
    if next < exponentBound then tooLargeAfter? next (count + 1) rest else some (count + 1)

namespace Literal

/-- The number that is written, unless it is out of range. -/
def number? (literal : Literal) (negative : Bool) : Option Number :=
  match literal.fraction, literal.exponent with
  | none, none => Reader.integerLiteral negative literal.whole
  | _, _ =>
    let s := (Reader.Significand.whole ⟨0, 0⟩ literal.whole).fraction
      (literal.fraction.getD [])
    let exponent : Int := match literal.exponent with
      | none => 0
      | some (false, digits) => Text.digitsValue digits
      | some (true, digits) => -(Text.digitsValue digits : Int)
    (Double.ofLiteral? negative s.value (s.places + exponent)).map .float

/-- Where it shows that a number is out of range: at the digit that makes its exponent too large,
or else at its end. -/
def rangeOffset (literal : Literal) (last : Cursor) : Nat :=
  match literal.exponent with
  | some (false, digits) =>
    match tooLargeAfter? 0 0 digits with
    | some count => literal.exponentStart + count
    | none => last.offset
  | _ => last.offset

end Literal

def number (negative : Bool) (c : Cursor) : Result (Number × Cursor) := do
  let (literal, c) ← literal .endInValue c
  match literal.number? negative with
  | some number => return (number, c)
  | none => .error ⟨.outOfRange, literal.rangeOffset c⟩

def passNumber (c : Cursor) : Result Cursor := Prod.snd <$> literal .badNumber c

/-! Lists and objects. -/

/-- Where the next element of a list starts; nothing at the end of the list. -/
def nextItem (first : Bool) (c : Cursor) : Result (Option Cursor) :=
  let c := c.skip
  match c.rest with
  | [] => c.fail .endInList
  | ']' :: _ => .ok none
  | x :: _ =>
    if first then .ok (some c)
    else if x = ',' then
      let c := c.next.skip
      match c.rest with
      | [] => c.fail .endInValue
      | ']' :: _ => c.fail .trailingComma
      | _ => .ok (some c)
    else c.fail .noListEnd

def closeList (c : Cursor) : Result Cursor :=
  let c := c.skip
  match c.rest with
  | [] => c.fail .endInList
  | ']' :: _ => .ok c.next
  | ',' :: _ =>
    let c := c.next.skip
    match c.rest with
    | ']' :: _ => c.fail .trailingComma
    | _ => c.fail .trailing
  | _ => c.fail .trailing

/-- Read the key of the next field; nothing at the end of the object. -/
def nextKey (first : Bool) (c : Cursor) : Result (Option (String × Cursor)) :=
  let c := c.skip
  match c.rest with
  | [] => c.fail .endInObject
  | '}' :: _ => .ok none
  | x :: _ =>
    if first then
      if x = '"' then some <$> string c.next else c.fail .keyNotString
    else if x = ',' then
      let c := c.next.skip
      match c.rest with
      | [] => c.fail .endInValue
      | '"' :: _ => some <$> string c.next
      | '}' :: _ => c.fail .trailingComma
      | _ => c.fail .keyNotString
    else c.fail .noObjectEnd

def closeObject (c : Cursor) : Result Cursor :=
  let c := c.skip
  match c.rest with
  | [] => c.fail .endInObject
  | '}' :: _ => .ok c.next
  | ',' :: _ => c.fail .trailingComma
  | _ => c.fail .trailing

def colon (c : Cursor) : Result Cursor :=
  let c := c.skip
  match c.rest with
  | [] => c.fail .endInObject
  | ':' :: _ => .ok c.next
  | _ => c.fail .noColon

/-! Values. -/

mutual

/-- Read a value. `room` is the number of containers that may still be opened. -/
def value : Nat → Nat → Cursor → Result Cursor
  | 0, _, c => c.failHere .tooDeep
  | fuel + 1, room, c =>
    let c := c.skip
    match c.rest with
    | [] => c.fail .endInValue
    | 'n' :: _ => word ['u', 'l', 'l'] c.next
    | 't' :: _ => word ['r', 'u', 'e'] c.next
    | 'f' :: _ => word ['a', 'l', 's', 'e'] c.next
    | '"' :: _ => Prod.snd <$> string c.next
    | '-' :: _ => Prod.snd <$> number true c.next
    | '[' :: _ => if room = 0 then c.fail .tooDeep else items fuel (room - 1) true c.next
    | '{' :: _ => if room = 0 then c.fail .tooDeep else fields fuel (room - 1) true c.next
    | x :: _ => if x.isDigit then Prod.snd <$> number false c else c.fail .noValue

/-- Read the elements of a list and its end. -/
def items : Nat → Nat → Bool → Cursor → Result Cursor
  | 0, _, _, c => c.failHere .tooDeep
  | fuel + 1, room, first, c => do
    match ← nextItem first c with
    | none => closeList c
    | some c => items fuel room false (← value fuel room c)

/-- Read the fields of an object and its end. -/
def fields : Nat → Nat → Bool → Cursor → Result Cursor
  | 0, _, _, c => c.failHere .tooDeep
  | fuel + 1, room, first, c => do
    match ← nextKey first c with
    | none => closeObject c
    | some (_, c) => fields fuel room false (← value fuel room (← colon c))

end

mutual

def pass : Nat → Cursor → Result Cursor
  | 0, c => c.failHere .tooDeep
  | fuel + 1, c =>
    let c := c.skip
    match c.rest with
    | [] => c.fail .endInValue
    | 'n' :: _ => word ['u', 'l', 'l'] c.next
    | 't' :: _ => word ['r', 'u', 'e'] c.next
    | 'f' :: _ => word ['a', 'l', 's', 'e'] c.next
    | '"' :: _ => passString c.next
    | '-' :: _ => passNumber c.next
    | '[' :: _ =>
      match c.next.skip.rest with
      | ']' :: _ => .ok c.next.skip.next
      | [] => c.next.skip.fail .endInList
      | _ => passItems fuel c.next
    | '{' :: _ =>
      match c.next.skip.rest with
      | '}' :: _ => .ok c.next.skip.next
      | _ => passFields fuel c.next
    | x :: _ => if x.isDigit then passNumber c else c.fail .noValue

/-- Pass over one or more elements of a list and its end. -/
def passItems : Nat → Cursor → Result Cursor
  | 0, c => c.failHere .tooDeep
  | fuel + 1, c => do
    let c := (← pass fuel c).skip
    match c.rest with
    | [] => c.fail .endInList
    | ',' :: _ => passItems fuel c.next
    | ']' :: _ => .ok c.next
    | _ => c.fail .noListEnd

/-- Pass over one or more fields of an object and its end. -/
def passFields : Nat → Cursor → Result Cursor
  | 0, c => c.failHere .tooDeep
  | fuel + 1, c => do
    let c := c.skip
    match c.rest with
    | [] => c.fail .endInObject
    | '"' :: _ =>
      let c := (← pass fuel (← colon (← passString c.next))).skip
      match c.rest with
      | [] => c.fail .endInObject
      | ',' :: _ => passFields fuel c.next
      | '}' :: _ => .ok c.next
      | _ => c.fail .noObjectEnd
    | _ => c.fail .keyNotString

end

end BrickPipeline.Json.Scan
