import BrickPipeline.Scope.Path

/-!
The grammar of property paths. A path is written as segments with dots between them, each a key
with array positions in brackets and optional markers behind it. It leads where its steps do, one
after the other: to a binding, and from there into fields and elements.
-/
namespace BrickPipeline.Path

/-- A character that stands for itself in a segment. -/
def isPlain (c : Char) : Bool := c != '.' && c != '[' && c != '?' && !Text.isBlank c

/-- A position as it is written: decimal digits, for a number below `Text.indexBound`. -/
structure Numeral where
  digits : List Char
  digits_ne_nil : digits ≠ []
  decimal : digits.all Char.isDigit = true
  bounded : Text.digitsValue digits < Text.indexBound

def Numeral.value (numeral : Numeral) : Nat := Text.digitsValue numeral.digits

theorem Numeral.isDigit (numeral : Numeral) {c : Char} (h : c ∈ numeral.digits) :
    c.isDigit = true :=
  List.all_eq_true.1 numeral.decimal c h

/-- A segment as it is written: a key, positions in brackets, and optional markers. -/
structure Written where
  key : List Char
  numerals : List Numeral
  markers : Nat
  key_ne_nil : key ≠ []
  plain : key.all isPlain = true

/-- Positions in brackets. -/
def bracketed (numerals : List Numeral) : List Char :=
  numerals.flatMap fun numeral => '[' :: (numeral.digits ++ [']'])

namespace Written

theorem isPlain (segment : Written) {c : Char} (h : c ∈ segment.key) : Path.isPlain c = true :=
  List.all_eq_true.1 segment.plain c h

def text (segment : Written) : List Char :=
  segment.key ++ bracketed segment.numerals ++ List.replicate segment.markers '?'

/-- The segment that is written. -/
def segment (segment : Written) : Segment :=
  ⟨String.ofList segment.key, segment.numerals.map Numeral.value⟩

/-- A path of one segment or more. -/
def path (head : Written) (rest : List Written) : String :=
  String.ofList (['.'].intercalate ((head :: rest).map text))

end Written

/-- A step from one value to another: to what is under a key, or to an element of an array. -/
inductive Access where
  | key (name : String)
  | position (n : Nat)
deriving DecidableEq

/-- A key names a field of an object, or an element of an array if it reads as an index. -/
def Access.apply (value : Json) : Access → Option Json
  | .key name =>
    match value with
    | .object fields => Entries.get? name fields
    | .array items => (Text.parseIndex? name.toList).bind (items[·]?)
    | _ => none
  | .position n =>
    match value with
    | .array items => items[n]?
    | _ => none

namespace Segment

def accesses (segment : Segment) : List Access := .key segment.key :: segment.positions.map .position

end Segment

/-- Where steps lead, one after the other; nowhere as soon as one does not apply. -/
def walk (value : Json) (steps : List Access) : Option Json := steps.foldlM Access.apply value

theorem walk_append (value : Json) (first second : List Access) :
    walk value (first ++ second) = (walk value first).bind (walk · second) :=
  List.foldlM_append

/-- Where a path leads: its first key names a binding, and everything behind it is a step. -/
def lead (bindings : Entries Json) (head : Segment) (rest : List Segment) : Option Json := do
  let value ← Entries.get? head.key bindings
  walk value (head.positions.map .position ++ rest.flatMap Segment.accesses)

/-! A lookup follows the steps of its segments. -/

theorem atPositions_eq (value : Json) (positions : List Nat) :
    atPositions value positions = walk value (positions.map .position) := by
  induction positions generalizing value with
  | nil => rfl
  | cons position rest ih =>
    have hat : value.at? position = Access.apply value (.position position) := by
      cases value <;> rfl
    rw [atPositions, hat, funext ih]
    rfl

theorem step_eq (value : Json) {segment : Segment} (hk : segment.key ≠ "") :
    step false value segment = walk value segment.accesses := by
  have hat : atKey value segment.key = Access.apply value (.key segment.key) := by
    cases value <;> rfl
  have he : segment.key.isEmpty = false := by simpa using hk
  rw [step, hat, he, funext fun next => atPositions_eq next segment.positions]
  rfl

theorem follow_eq (value : Json) {segments : List Segment} (hk : ∀ s ∈ segments, s.key ≠ "") :
    follow false value segments = walk value (segments.flatMap Segment.accesses) := by
  induction segments generalizing value with
  | nil => rfl
  | cons segment rest ih =>
    obtain ⟨hs, hr⟩ := List.forall_mem_cons.1 hk
    rw [follow, step_eq value hs, funext fun next => ih next hr, List.flatMap_cons, walk_append]
    rfl

/-- No visible lookup gets past the key of a service record. -/
theorem follow_visible_eq (value : Json) (segments : List Segment) :
    follow true value segments =
      if segments.any (·.key == serviceKey) then none else follow false value segments := by
  induction segments generalizing value with
  | nil => rfl
  | cons segment rest ih =>
    rw [follow, funext ih]
    by_cases hs : segment.key = serviceKey
    · simp [step, hs]
    · have hstep : step true value segment = step false value segment := by simp [step, hs]
      simp only [hstep, List.any_cons, beq_eq_false_iff_ne.2 hs, Bool.false_or]
      split
      · cases step false value segment <;> rfl
      · rfl

theorem resolve_cons (visibleOnly : Bool) (bindings : Entries Json) (head : Segment)
    (rest : List Segment) :
    resolve visibleOnly bindings (head :: rest) =
      (Entries.get? head.key bindings).bind fun value =>
        (atPositions value head.positions).bind (follow visibleOnly · rest) := rfl

theorem resolve_eq (bindings : Entries Json) (head : Segment) {rest : List Segment}
    (hk : ∀ s ∈ rest, s.key ≠ "") :
    resolve false bindings (head :: rest) = lead bindings head rest := by
  have hrest : (follow false · rest) = (walk · (rest.flatMap Segment.accesses)) :=
    funext fun next => follow_eq next hk
  simp only [resolve_cons, lead, hrest, atPositions_eq, walk_append]
  rfl

theorem resolve_visible_eq (bindings : Entries Json) (head : Segment) (rest : List Segment) :
    resolve true bindings (head :: rest) =
      if rest.any (·.key == serviceKey) then none else resolve false bindings (head :: rest) := by
  rw [resolve_cons, resolve_cons, funext fun next => follow_visible_eq next rest]
  split
  · cases Entries.get? head.key bindings with
    | none => rfl
    | some value => simp
  · rfl

/-! A written path is read as the segments that it was written from. -/

theorem isPlain_of_isDigit {c : Char} (h : c.isDigit = true) : isPlain c = true := by
  have hne (d : Char) (hd : d.isDigit = false) : c ≠ d := by
    rintro rfl
    rw [h] at hd
    cases hd
  have hblank : Text.isBlank c = false := by
    simp only [Char.isDigit, Bool.and_eq_true, decide_eq_true_eq, UInt32.le_iff_toNat_le] at h
    have hlow : 48 ≤ c.toNat := h.1
    have hhigh : c.toNat ≤ 57 := h.2
    simp [Text.isBlank]
    omega
  simp [isPlain, hne '.' rfl, hne '[' rfl, hne '?' rfl, hblank]

theorem isPlain_iff {c : Char} :
    isPlain c = true ↔ c ≠ '.' ∧ c ≠ '[' ∧ c ≠ '?' ∧ Text.isBlank c = false := by
  simp [isPlain, and_assoc]

/-- What is read from one bracket on does not depend on what stands before it. -/
theorem positions_append (cs part : List Char) :
    positions (cs ++ '[' :: part) = positions cs ++ positions ('[' :: part) := by
  have hpart : Text.splitOn '[' ('[' :: part) = [] :: Text.splitOn '[' part := by
    rw [Text.splitOn, if_pos rfl]
  unfold positions
  rw [Text.splitOn_append_separator, hpart, List.filterMap_append]
  rfl

/-- The text in a bracket is a position if it is an index up to blanks, else it is none. -/
theorem positions_bracket {text : List Char} (h : '[' ∉ text) :
    positions ('[' :: (text ++ [']'])) = (Text.parseIndex? (Text.trim text)).toList := by
  have hopen : '[' ∉ text ++ [']'] := by simpa using h
  have hsplit : Text.splitOn '[' ('[' :: (text ++ [']'])) = [[], text ++ [']']] := by
    rw [Text.splitOn, if_pos rfl, Text.splitOn_of_notMem hopen]
  have hclose : (text ++ [']']).reverse = ']' :: text.reverse := by simp
  unfold positions
  rw [hsplit]
  simp only [List.filterMap_cons, hclose, List.reverse_reverse]
  cases Text.parseIndex? (Text.trim text) <;> rfl

theorem Numeral.opens (numeral : Numeral) : '[' ∉ numeral.digits :=
  fun hm => absurd (numeral.isDigit hm) (by decide)

theorem Numeral.parseIndex?_trim (numeral : Numeral) :
    Text.parseIndex? (Text.trim numeral.digits) = some numeral.value := by
  have hblank (c) (hc : c ∈ numeral.digits) : Text.isBlank c = false :=
    (isPlain_iff.1 (isPlain_of_isDigit (numeral.isDigit hc))).2.2.2
  rw [Text.trim_of_forall hblank]
  exact Text.parseIndex?_of_isDigit numeral.digits_ne_nil numeral.decimal numeral.bounded

theorem positions_numeral (numeral : Numeral) :
    positions ('[' :: (numeral.digits ++ [']'])) = [numeral.value] := by
  rw [positions_bracket numeral.opens, numeral.parseIndex?_trim]
  rfl

theorem positions_bracketed (numerals : List Numeral) :
    positions (bracketed numerals) = numerals.map Numeral.value := by
  induction numerals with
  | nil => rfl
  | cons numeral rest ih =>
    have hcons : bracketed (numeral :: rest) =
        '[' :: (numeral.digits ++ [']']) ++ bracketed rest := by
      simp [bracketed]
    rw [hcons]
    cases rest with
    | nil => simpa [bracketed] using positions_numeral numeral
    | cons next more =>
      have hnext : bracketed (next :: more) =
          '[' :: (next.digits ++ [']'] ++ bracketed more) := by
        simp [bracketed]
      rw [hnext, positions_append, ← hnext, ih, positions_numeral]
      rfl

namespace Written

/-- Up to its markers a segment holds none. -/
theorem plain_or_bracket {segment : Written} {c : Char}
    (h : c ∈ segment.key ++ bracketed segment.numerals) : c = '[' ∨ Path.isPlain c = true := by
  rcases List.mem_append.1 h with hk | hb
  · exact Or.inr (segment.isPlain hk)
  · obtain ⟨numeral, -, hc⟩ := List.mem_flatMap.1 hb
    rcases List.mem_cons.1 hc with hc | hc
    · exact Or.inl hc
    · rcases List.mem_append.1 hc with hd | hc
      · exact Or.inr (isPlain_of_isDigit (numeral.isDigit hd))
      · rw [List.mem_singleton.1 hc]
        exact Or.inr rfl

theorem not_marker {segment : Written} {c : Char}
    (h : c ∈ segment.key ++ bracketed segment.numerals) : (c == '?') = false := by
  rcases plain_or_bracket h with rfl | hp
  · rfl
  · exact beq_eq_false_iff_ne.2 (isPlain_iff.1 hp).2.2.1

theorem not_blank_dot {segment : Written} {c : Char} (h : c ∈ segment.text) :
    Text.isBlank c = false ∧ c ≠ '.' := by
  rcases List.mem_append.1 h with hb | hm
  · rcases plain_or_bracket hb with rfl | hp
    · decide
    · exact ⟨(isPlain_iff.1 hp).2.2.2, (isPlain_iff.1 hp).1⟩
  · rw [List.eq_of_mem_replicate hm]
    decide

theorem ofChars_text (segment : Written) : Segment.ofChars segment.text = segment.segment := by
  have hmarkers (c) (hc : c ∈ List.replicate segment.markers '?') : (c == '?') = true := by
    rw [List.eq_of_mem_replicate hc]
    rfl
  have hkey (c) (hc : c ∈ segment.key) : (c != '[') = true :=
    bne_iff_ne.2 (isPlain_iff.1 (segment.isPlain hc)).2.1
  have hopen : (bracketed segment.numerals).takeWhile (· != '[') = [] ∧
      (bracketed segment.numerals).dropWhile (· != '[') = bracketed segment.numerals := by
    cases segment.numerals <;> exact ⟨rfl, rfl⟩
  unfold Segment.ofChars Written.text
  rw [Text.dropEndWhile_append (fun c => not_marker) hmarkers]
  dsimp only
  rw [List.takeWhile_append_of_pos hkey, List.dropWhile_append_of_pos hkey, hopen.1, hopen.2,
    positions_bracketed, List.append_nil]
  rfl

end Written

/-- A path made of pieces is read piece by piece. -/
theorem segments_intercalate {pieces : List (List Char)} (hne : pieces ≠ [])
    (hp : ∀ piece ∈ pieces, piece ≠ [] ∧ ∀ c ∈ piece, Text.isBlank c = false ∧ c ≠ '.') :
    segments (String.ofList (['.'].intercalate pieces)) = pieces.map Segment.ofChars := by
  have hblank : ∀ c ∈ ['.'].intercalate pieces, Text.isBlank c = false := by
    intro c hc
    rcases Text.mem_intercalate hc with rfl | ⟨piece, hpiece, hc⟩
    · rfl
    · exact ((hp piece hpiece).2 c hc).1
  have hsplit : Text.splitOn '.' (['.'].intercalate pieces) = pieces :=
    Text.splitOn_intercalate hne fun piece hpiece hdot => ((hp piece hpiece).2 '.' hdot).2 rfl
  have hfilter : pieces.filter (!·.isEmpty) = pieces :=
    List.filter_eq_self.2 fun piece hpiece => by simpa using (hp piece hpiece).1
  rw [segments, String.toList_ofList, Text.trim_of_forall hblank, hsplit, hfilter]

theorem segments_path (head : Written) (rest : List Written) :
    segments (Written.path head rest) = (head :: rest).map Written.segment := by
  have hpieces (piece) (hp : piece ∈ (head :: rest).map Written.text) :
      piece ≠ [] ∧ ∀ c ∈ piece, Text.isBlank c = false ∧ c ≠ '.' := by
    obtain ⟨segment, -, rfl⟩ := List.mem_map.1 hp
    exact ⟨by simp [Written.text, segment.key_ne_nil], fun c => Written.not_blank_dot⟩
  rw [Written.path, segments_intercalate (by simp) hpieces, List.map_map]
  exact List.map_congr_left fun segment _ => segment.ofChars_text

/-- A path leads where its steps do, one after the other. A visible lookup does the same, but that
it leads nowhere if a segment behind the first has the key of a service record. -/
theorem get?_path (bindings : Entries Json) (head : Written) (rest : List Written) :
    get? bindings (Written.path head rest) =
        lead bindings head.segment (rest.map Written.segment) ∧
      getVisible? bindings (Written.path head rest) =
        if ∃ segment ∈ rest, segment.segment.key = serviceKey then none
        else lead bindings head.segment (rest.map Written.segment) := by
  have hkey : ∀ s ∈ rest.map Written.segment, s.key ≠ "" := by
    intro s hs
    obtain ⟨segment, -, rfl⟩ := List.mem_map.1 hs
    simpa [Written.segment] using segment.key_ne_nil
  have hany : (rest.map Written.segment).any (·.key == serviceKey) = true ↔
      ∃ segment ∈ rest, segment.segment.key = serviceKey := by
    simp [List.any_eq_true]
  rw [get?, getVisible?, segments_path, List.map_cons, resolve_visible_eq,
    resolve_eq bindings head.segment hkey]
  simp only [hany, true_and]

example : Written.path ⟨['@', 'i', 'n'], [], 0, by decide, by decide⟩
    [⟨['r', 'o', 'w'], [⟨['0', '1'], by decide, by decide, by decide⟩], 1, by decide, by decide⟩] =
      "@in.row[01]?" := by decide

end BrickPipeline.Path
