import BrickPipeline.Text.Scan

/-!
Identifiers of bricks: `/`-joined segments of lower-case letters, digits and `. _ ~ -`,
after an optional `@scope/`.
-/
namespace BrickPipeline

namespace BrickId

def isStart (c : Char) : Bool := c.isLower || c.isDigit

def isInner (c : Char) : Bool := isStart c || c == '.' || c == '_' || c == '~' || c == '-'

/-- A start character and any number of inner ones. -/
def isSegment : List Char → Bool
  | [] => false
  | c :: cs => isStart c && cs.all isInner

/-- One or more segments, or a scope and one or more segments. -/
def isWellFormed (cs : List Char) : Bool :=
  match cs with
  | '@' :: rest =>
    let segments := Text.splitOn '/' rest
    decide (2 ≤ segments.length) && segments.all isSegment
  | _ => (Text.splitOn '/' cs).all isSegment

end BrickId

/-- The identifier of a brick, such as `@brick/for-each`. -/
structure BrickId where
  text : String
  wellFormed : BrickId.isWellFormed text.toList = true
deriving DecidableEq

namespace BrickId

/-- Read an identifier; `none` when the text does not follow the grammar. -/
def parse? (text : String) : Option BrickId :=
  if h : isWellFormed text.toList = true then some ⟨text, h⟩ else none

/-- The `@scope` part of a scoped identifier. -/
def scope? (id : BrickId) : Option String :=
  match id.text.toList with
  | '@' :: rest => (Text.splitOn '/' ('@' :: rest)).head?.map String.ofList
  | _ => none

instance : ToString BrickId := ⟨BrickId.text⟩

instance : Inhabited BrickId := ⟨⟨"a", by decide⟩⟩

@[simp] theorem parse?_text (id : BrickId) : parse? id.text = some id := by
  simp [parse?, id.wellFormed]

theorem text_of_parse? {text : String} {id : BrickId} (h : parse? text = some id) :
    id.text = text := by
  unfold parse? at h
  split at h
  · cases h; rfl
  · simp at h

end BrickId
end BrickPipeline
