import BrickPipeline.Json.Scan
import BrickPipeline.Wire

/-!
The shapes of typed values in a text, and the first fault of a text that does not have a shape.
A text is looked at from left to right, and each fault has its place: a value of another type is
at fault where it ends, a container where it starts, and a record with the wrong fields where it
ends.
-/
namespace BrickPipeline.Wire

open Json (Cursor Position)

/-- The shape of a typed value. -/
inductive Shape where
  | string
  | bool
  /-- A map of any values. -/
  | map
  | optional (content : Shape)
  | list (item : Shape)
  /-- A record, with the names of its fields, whether they are required, and their shapes. -/
  | record (name : String) (fields : List (String × Bool × Shape))
deriving Inhabited

/-- Why a text does not have a shape, and the bytes before the fault. -/
structure Fault where
  reason : ReadError
  offset : Nat
deriving DecidableEq, Inhabited

/-- The fault in words, with its place in the text. -/
def Fault.message (fault : Fault) (source : String) : String :=
  s!"{fault.reason.message} at {(Position.ofOffset source fault.offset).text}"

namespace Shape

abbrev Look (α : Type) := Except Fault α

/-- A flaw of the text is a fault at its place. -/
def orFlaw {α : Type} : Except Json.Fault α → Look α
  | .ok result => .ok result
  | .error fault => .error ⟨.flaw fault.flaw, fault.offset⟩

def other {α : Type} (c : Cursor) (expected : String) (found : Json.Tree) : Look α :=
  .error ⟨.mismatch found.describe expected, c.offset⟩

/-- Tell what stands at a place, instead of what was expected. -/
def mismatchAt {α : Type} (c : Cursor) (expected : String) : Look α := do
  match c.rest with
  | [] => orFlaw (c.fail .endInValue)
  | 'n' :: _ => other (← orFlaw (Json.Scan.word ['u', 'l', 'l'] c.next)) expected .null
  | 't' :: _ => other (← orFlaw (Json.Scan.word ['r', 'u', 'e'] c.next)) expected (.bool true)
  | 'f' :: _ =>
    other (← orFlaw (Json.Scan.word ['a', 'l', 's', 'e'] c.next)) expected (.bool false)
  | '"' :: _ =>
    let (text, c) ← orFlaw (Json.Scan.string c.next)
    other c expected (.string text)
  | '-' :: _ =>
    let (number, c) ← orFlaw (Json.Scan.number true c.next)
    other c expected (.number number)
  | '[' :: _ => other c expected (.array [])
  | '{' :: _ => other c expected (.object [])
  | x :: _ =>
    if x.isDigit then
      let (number, c) ← orFlaw (Json.Scan.number false c)
      other c expected (.number number)
    else orFlaw (c.fail .noValue)

/-- Past blanks, and past a closing mark if it follows. -/
def pastMark (mark : Char) (c : Cursor) : Cursor :=
  let c := c.skip
  if c.rest.head? = some mark then c.next else c

/-- A record that ends without something that it requires. -/
def atEnd {α : Type} (mark : Char) (c : Cursor) (reason : ReadError) : Look α :=
  .error ⟨reason, (pastMark mark c).offset⟩

mutual

/-- Look at a value of a shape. `room` is the number of containers that may still be opened. -/
def look : Nat → Nat → Shape → Cursor → Look Cursor
  | 0, _, _, c => orFlaw (c.failHere .tooDeep)
  | fuel + 1, room, shape, c =>
    let c := c.skip
    match shape, c.rest with
    | .string, '"' :: _ => orFlaw (Prod.snd <$> Json.Scan.string c.next)
    | .string, _ => mismatchAt c "a string"
    | .bool, 't' :: _ => orFlaw (Json.Scan.word ['r', 'u', 'e'] c.next)
    | .bool, 'f' :: _ => orFlaw (Json.Scan.word ['a', 'l', 's', 'e'] c.next)
    | .bool, _ => mismatchAt c "a boolean"
    | .map, '{' :: _ => orFlaw (Json.Scan.value (fuel + 1) room c)
    | .map, _ => mismatchAt c "a map"
    | .optional _, 'n' :: _ => orFlaw (Json.Scan.word ['u', 'l', 'l'] c.next)
    | .optional content, _ => look fuel room content c
    | .list item, '[' :: _ =>
      if room = 0 then orFlaw (c.fail .tooDeep) else lookItems fuel (room - 1) item true c.next
    | .list _, _ => mismatchAt c "a sequence"
    | .record name fields, '[' :: _ =>
      if room = 0 then orFlaw (c.fail .tooDeep)
      else lookInOrder fuel (room - 1) name fields 0 fields true c.next
    | .record _ fields, '{' :: _ =>
      if room = 0 then orFlaw (c.fail .tooDeep)
      else lookFields fuel (room - 1) fields [] true c.next
    | .record name _, _ => mismatchAt c ("struct " ++ name)

/-- Look at the elements of a list and its end. -/
def lookItems : Nat → Nat → Shape → Bool → Cursor → Look Cursor
  | 0, _, _, _, c => orFlaw (c.failHere .tooDeep)
  | fuel + 1, room, item, first, c => do
    match ← orFlaw (Json.Scan.nextItem first c) with
    | none => orFlaw (Json.Scan.closeList c)
    | some c => lookItems fuel room item false (← look fuel room item c)

/-- Look at the fields of a record in declaration order and at its end; `index` counts the fields
before. -/
def lookInOrder : Nat → Nat → String → List (String × Bool × Shape) → Nat →
    List (String × Bool × Shape) → Bool → Cursor → Look Cursor
  | 0, _, _, _, _, _, _, c => orFlaw (c.failHere .tooDeep)
  | _ + 1, _, _, _, _, [], _, c => orFlaw (Json.Scan.closeList c)
  | fuel + 1, room, name, all, index, (_, required, shape) :: rest, first, c => do
    match ← orFlaw (Json.Scan.nextItem first c) with
    | none =>
      if required then atEnd ']' c (.invalidLength index (elementsText name all.length))
      else lookInOrder fuel room name all (index + 1) rest first c
    | some c =>
      lookInOrder fuel room name all (index + 1) rest false (← look fuel room shape c)

/-- Look at the fields of a record in text order and at its end; `seen` holds the names before. -/
def lookFields : Nat → Nat → List (String × Bool × Shape) → List String → Bool → Cursor →
    Look Cursor
  | 0, _, _, _, _, c => orFlaw (c.failHere .tooDeep)
  | fuel + 1, room, fields, seen, first, c => do
    match ← orFlaw (Json.Scan.nextKey first c) with
    | none =>
      match fields.find? fun (name, required, _) => required && !seen.contains name with
      | some (name, _) => atEnd '}' c (.missingField name)
      | none => orFlaw (Json.Scan.closeObject c)
    | some (key, c) =>
      match fields.lookup key with
      | none =>
        let c ← orFlaw (Json.Scan.colon c >>= Json.Scan.pass fuel)
        lookFields fuel room fields seen false c
      | some (_, shape) =>
        if seen.contains key then atEnd '}' c (.duplicateField key)
        else
          let c ← look fuel room shape (← orFlaw (Json.Scan.colon c))
          lookFields fuel room fields (key :: seen) false c

end

/-- The first fault of a text that should hold a value of a shape and nothing else. -/
def fault? (shape : Shape) (source : String) : Option Fault :=
  let start := Cursor.start source
  match look (4 * start.rest.length + 16) Json.Reader.defaultRoom shape start with
  | .error fault => some fault
  | .ok c =>
    let c := c.skip
    if c.rest.isEmpty then none else some ⟨.flaw .trailing, c.ahead⟩

end Shape
end BrickPipeline.Wire
