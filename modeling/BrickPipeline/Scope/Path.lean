import BrickPipeline.Json.Printer
import BrickPipeline.Text.Word
import BrickPipeline.Text.Scan

/-!
Property paths such as `@input.items[0].id` or `@profile?.name`. A path is read into segments
first; a lookup is a fold over the segments that never looks at text.
-/
namespace BrickPipeline

/-- The field of a service binding that holds the configured service itself. -/
def serviceKey : String := "__service"

namespace Path

/-- A key and the array positions behind it, written `key[0][1]?`. -/
structure Segment where
  key : String
  positions : List Nat
deriving DecidableEq

/-- The positions written in brackets; a bracket that holds no index is passed over. -/
def positions (cs : List Char) : List Nat :=
  (Text.splitOn '[' cs).filterMap fun part =>
    match part.reverse with
    | ']' :: inner => Text.parseIndex? (Text.trim inner.reverse)
    | _ => none

/-- Read one segment; optional markers at its end are ignored. -/
def Segment.ofChars (cs : List Char) : Segment :=
  let cs := Text.dropEndWhile (· == '?') cs
  ⟨String.ofList (cs.takeWhile (· != '[')), Path.positions (cs.dropWhile (· != '['))⟩

/-- The segments of a path: dot-separated, empty ones left out. -/
def segments (path : String) : List Segment :=
  ((Text.splitOn '.' (Text.trim path.toList)).filter (!·.isEmpty)).map Segment.ofChars

def atPositions (value : Json) : List Nat → Option Json
  | [] => some value
  | position :: rest => do atPositions (← value.at? position) rest

/-- The value under a key: an element of an array if the key is an index, else a field. -/
def atKey (value : Json) (key : String) : Option Json :=
  match value with
  | .array items => do items[← Text.parseIndex? key.toList]?
  | _ => value.get? key

/-- The value that a later segment leads to; a segment without a key only has positions. -/
def step (visibleOnly : Bool) (value : Json) (segment : Segment) : Option Json :=
  if visibleOnly && segment.key == serviceKey then none
  else if segment.key.isEmpty then atPositions value segment.positions
  else do atPositions (← atKey value segment.key) segment.positions

def follow (visibleOnly : Bool) (value : Json) : List Segment → Option Json
  | [] => some value
  | segment :: rest => do follow visibleOnly (← step visibleOnly value segment) rest

/-- Follow segments from bindings; the first one names a binding. -/
def resolve (visibleOnly : Bool) (bindings : Entries Json) : List Segment → Option Json
  | [] => none
  | head :: rest => do
    let value ← Entries.get? head.key bindings
    follow visibleOnly (← atPositions value head.positions) rest

/-- The value at a path, service records included. -/
def get? (bindings : Entries Json) (path : String) : Option Json :=
  resolve false bindings (segments path)

/-- The value at a path that does not lead through a service record. -/
def getVisible? (bindings : Entries Json) (path : String) : Option Json :=
  resolve true bindings (segments path)

def isHeadStart (c : Char) : Bool := c.isAlpha || c == '_' || c == '@' || c == '$'

/-- A character that may follow in a path's keys. -/
def isKeyChar (c : Char) : Bool := Text.isWord c || c == '@' || c == '$' || c == '-'

/-- Key characters and at most one optional marker behind them. -/
def isKeyTail (cs : List Char) : Bool :=
  let rest := cs.dropWhile isKeyChar
  rest.isEmpty || rest == ['?']

/-- A piece of a bare path after the first: a key that is not empty. -/
def isLaterPiece : List Char → Bool
  | [] => false
  | c :: cs => isKeyChar c && isKeyTail cs

def isHeadPiece : List Char → Bool
  | [] => false
  | c :: cs => isHeadStart c && isKeyTail cs

/-- Whether a text is a bare property path whose first key is bound. -/
def isSimple (text : String) (bindings : Entries Json) : Bool :=
  match Text.splitOn '.' text.toList with
  | [] => false
  | head :: rest =>
    isHeadPiece head && rest.all isLaterPiece &&
      Entries.contains (String.ofList (Text.dropEndWhile (· == '?') head)) bindings

/--
The value at a path where a service binding stands for the configured service itself; null when
the path leads nowhere.
-/
def getService (bindings : Entries Json) (path : String) : Json :=
  match get? bindings path with
  | some (.object fields) => (Entries.get? serviceKey fields).getD (.object fields)
  | some value => value
  | none => .null

end Path

/-- The value without the service record among its own fields. -/
def Json.withoutService : Json → Json
  | .object fields => .object (Entries.erase serviceKey fields)
  | value => value

/-- The text of a value inside other text: strings as they are, null as nothing. -/
def Json.displayText : Json → String
  | .string s => s
  | .null => ""
  | .number n => n.text
  | .bool b => if b then "true" else "false"
  | value => value.withoutService.render

end BrickPipeline
