import BrickPipeline.Proofs.PathIndices

/-!
Optional markers in a path. At the end of a segment they are ignored, whatever their number. Before
a bracket they belong to the key, and between two brackets they take away the index before them.
-/
namespace BrickPipeline.Path

def marks (n : Nat) : List Char := List.replicate n '?'

/-- A segment as it is written with markers anywhere: behind its key, and behind each position. -/
structure Marked where
  key : List Char
  keyMarkers : Nat
  indices : List (Numeral × Nat)
  key_ne_nil : key ≠ []
  plain : key.all isPlain = true

/-- A position in brackets, with the markers behind it. -/
def block (index : Numeral × Nat) : List Char :=
  '[' :: (index.1.digits ++ ']' :: marks index.2)

namespace Marked

def text (segment : Marked) : List Char :=
  segment.key ++ marks segment.keyMarkers ++ segment.indices.flatMap block

/-- A path of one segment or more. -/
def path (head : Marked) (rest : List Marked) : String :=
  String.ofList (['.'].intercalate ((head :: rest).map text))

/-- The segment as it is written without its markers. -/
def unmarked (segment : Marked) : Written :=
  ⟨segment.key, segment.indices.map Prod.fst, 0, segment.key_ne_nil, segment.plain⟩

/-- The segment that is read. Markers before a bracket belong to the key, and of the positions only
the last may have markers behind it. -/
def segment (segment : Marked) : Segment where
  key := String.ofList <|
    if segment.indices = [] then segment.key else segment.key ++ marks segment.keyMarkers
  positions :=
    (segment.indices.dropLast.filter (·.2 = 0) ++ segment.indices.getLast?.toList).map (·.1.value)

/-- Whether markers stand at the end of the segment alone. -/
def AtEnd (segment : Marked) : Prop :=
  (segment.indices ≠ [] → segment.keyMarkers = 0) ∧
    ∀ index ∈ segment.indices.dropLast, index.2 = 0

end Marked

/-- A bracket that is not closed at its end holds no position. -/
theorem positions_unclosed {part : List Char} (h : '[' ∉ part)
    (hlast : part.getLast? ≠ some ']') : positions ('[' :: part) = [] := by
  have hsplit : Text.splitOn '[' ('[' :: part) = [[], part] := by
    rw [Text.splitOn, if_pos rfl, Text.splitOn_of_notMem h]
  unfold positions
  rw [hsplit, List.filterMap_eq_nil_iff]
  intro piece hp
  rcases List.mem_cons.1 hp with rfl | hp
  · rfl
  · obtain rfl := List.mem_singleton.1 hp
    split
    · rename_i inner hrev
      rw [← List.head?_reverse, hrev] at hlast
      exact absurd rfl hlast
    · rfl

theorem positions_block (index : Numeral × Nat) :
    positions (block index) = if index.2 = 0 then [index.1.value] else [] := by
  obtain ⟨numeral, markers⟩ := index
  cases markers with
  | zero => exact positions_numeral numeral
  | succ n =>
    have hopen : '[' ∉ numeral.digits ++ ']' :: marks (n + 1) := by
      have hdigits := numeral.opens
      simp [marks, List.mem_replicate, hdigits]
    have hlast : (numeral.digits ++ ']' :: marks (n + 1)).getLast? = some '?' := by
      have hmarks : numeral.digits ++ ']' :: marks (n + 1) =
          numeral.digits ++ ']' :: marks n ++ ['?'] := by
        simp [marks, List.replicate_succ']
      rw [hmarks, List.getLast?_concat]
    exact positions_unclosed hopen (by rw [hlast]; decide)

theorem exists_open (indices : List (Numeral × Nat)) (part : List Char) :
    ∃ more, indices.flatMap block ++ '[' :: part = '[' :: more := by
  cases indices with
  | nil => exact ⟨part, rfl⟩
  | cons index rest => exact ⟨_, rfl⟩

/-- Brackets before another hold the positions that have no markers behind them. -/
theorem positions_blocks (indices : List (Numeral × Nat)) (part : List Char) :
    positions (indices.flatMap block ++ '[' :: part) =
      (indices.filter (·.2 = 0)).map (·.1.value) ++ positions ('[' :: part) := by
  induction indices with
  | nil => rfl
  | cons index rest ih =>
    obtain ⟨more, hmore⟩ := exists_open rest part
    rw [List.flatMap_cons, List.append_assoc, hmore, positions_append, ← hmore, ih,
      positions_block, List.filter_cons]
    by_cases hm : index.2 = 0 <;> simp [hm]

theorem ofChars_append_marks {cs : List Char} (h : ∀ c ∈ cs.getLast?, c ≠ '?') (n : Nat) :
    Segment.ofChars (cs ++ marks n) = Segment.ofChars cs := by
  have hmarks (c) (hc : c ∈ marks n) : (c == '?') = true := by
    rw [List.eq_of_mem_replicate hc]
    rfl
  have hcs : Text.dropEndWhile (· == '?') (cs ++ marks n) = cs :=
    Text.dropEndWhile_append_of_getLast (fun c hc => beq_eq_false_iff_ne.2 (h c hc)) hmarks
  rw [ofChars_of_getLast h]
  unfold Segment.ofChars
  rw [hcs]

namespace Marked

theorem isPlain (segment : Marked) {c : Char} (h : c ∈ segment.key) : Path.isPlain c = true :=
  List.all_eq_true.1 segment.plain c h

theorem ofChars_text (segment : Marked) : Segment.ofChars segment.text = segment.segment := by
  obtain ⟨key, keyMarkers, indices, key_ne_nil, plain⟩ := segment
  rcases List.eq_nil_or_concat indices with rfl | ⟨init, ⟨numeral, markers⟩, hlast⟩
  · have hwritten := Written.ofChars_text ⟨key, [], keyMarkers, key_ne_nil, plain⟩
    simpa [Written.text, bracketed, text, marks, segment, Written.segment] using hwritten
  · rw [List.concat_eq_append] at hlast
    subst hlast
    obtain ⟨more, hmore⟩ := exists_open init (numeral.digits ++ [']'])
    have htext : text ⟨key, keyMarkers, init ++ [(numeral, markers)], key_ne_nil, plain⟩ =
        key ++ marks keyMarkers ++ '[' :: more ++ marks markers := by
      rw [← hmore]
      simp [text, block]
    have hend : ∀ c ∈ (key ++ marks keyMarkers ++ '[' :: more).getLast?, c ≠ '?' := by
      intro c hc
      rw [← hmore, ← List.append_assoc, getLast?_append_bracket] at hc
      exact Option.mem_some.1 hc ▸ by decide
    have hopen : '[' ∉ key ++ marks keyMarkers := by
      intro hc
      rcases List.mem_append.1 hc with hk | hm
      · exact (isPlain_iff.1 (List.all_eq_true.1 plain '[' hk)).2.1 rfl
      · exact absurd (List.eq_of_mem_replicate hm) (by decide)
    obtain ⟨htake, hdrop⟩ := split_of_notMem hopen
    rw [htext, ofChars_append_marks hend, ofChars_of_getLast hend, takeWhile_append_bracket,
      dropWhile_append_bracket, htake, hdrop, List.nil_append, ← hmore, positions_blocks,
      positions_numeral]
    simp [segment]

/-- No piece of a path that is written with markers holds a dot or a blank. -/
theorem not_blank_dot {segment : Marked} {c : Char} (h : c ∈ segment.text) :
    Text.isBlank c = false ∧ c ≠ '.' := by
  have hmark (n) (hc : c ∈ marks n) : Text.isBlank c = false ∧ c ≠ '.' := by
    rw [List.eq_of_mem_replicate hc]
    decide
  rcases List.mem_append.1 h with hk | hb
  · rcases List.mem_append.1 hk with hk | hm
    · have hplain := isPlain_iff.1 (segment.isPlain hk)
      exact ⟨hplain.2.2.2, hplain.1⟩
    · exact hmark _ hm
  · obtain ⟨⟨numeral, markers⟩, -, hc⟩ := List.mem_flatMap.1 hb
    rcases List.mem_cons.1 hc with rfl | hc
    · decide
    · rcases List.mem_append.1 hc with hd | hc
      · have hplain := isPlain_iff.1 (isPlain_of_isDigit (numeral.isDigit hd))
        exact ⟨hplain.2.2.2, hplain.1⟩
      · rcases List.mem_cons.1 hc with rfl | hm
        · decide
        · exact hmark _ hm

theorem segment_unmarked {segment : Marked} (h : segment.AtEnd) :
    segment.unmarked.segment = segment.segment := by
  obtain ⟨hkey, hindices⟩ := h
  have hname : (if segment.indices = [] then segment.key
      else segment.key ++ marks segment.keyMarkers) = segment.key := by
    by_cases hnil : segment.indices = []
    · rw [if_pos hnil]
    · rw [if_neg hnil, hkey hnil]
      exact List.append_nil _
  have hfilter : segment.indices.dropLast.filter (·.2 = 0) = segment.indices.dropLast :=
    List.filter_eq_self.2 fun index hm => by simpa using hindices index hm
  have hall : segment.indices.dropLast ++ segment.indices.getLast?.toList = segment.indices := by
    rcases List.eq_nil_or_concat segment.indices with h | ⟨init, last, h⟩ <;> simp [h]
  unfold Written.segment unmarked Marked.segment
  rw [hname, hfilter, hall, List.map_map]
  rfl

end Marked

theorem segments_marked (head : Marked) (rest : List Marked) :
    segments (Marked.path head rest) = (head :: rest).map Marked.segment := by
  have hpieces (piece) (hp : piece ∈ (head :: rest).map Marked.text) :
      piece ≠ [] ∧ ∀ c ∈ piece, Text.isBlank c = false ∧ c ≠ '.' := by
    obtain ⟨segment, -, rfl⟩ := List.mem_map.1 hp
    exact ⟨by simp [Marked.text, segment.key_ne_nil], fun c => Marked.not_blank_dot⟩
  rw [Marked.path, segments_intercalate (by simp) hpieces, List.map_map]
  exact List.map_congr_left fun segment _ => segment.ofChars_text

/-- A path with markers leads where the segments that are read from it do. Markers that stand at
the ends of segments alone, whatever their number, make no difference to any lookup. -/
theorem get?_marked (bindings : Entries Json) (head : Marked) (rest : List Marked) :
    (get? bindings (Marked.path head rest) =
        lead bindings head.segment (rest.map Marked.segment) ∧
      getVisible? bindings (Marked.path head rest) =
        if ∃ segment ∈ rest, segment.segment.key = serviceKey then none
        else lead bindings head.segment (rest.map Marked.segment)) ∧
    ((∀ segment ∈ head :: rest, segment.AtEnd) →
      get? bindings (Marked.path head rest) =
        get? bindings (Written.path head.unmarked (rest.map Marked.unmarked)) ∧
      getVisible? bindings (Marked.path head rest) =
        getVisible? bindings (Written.path head.unmarked (rest.map Marked.unmarked))) := by
  have hkey : ∀ s ∈ rest.map Marked.segment, s.key ≠ "" := by
    intro s hs
    obtain ⟨segment, -, rfl⟩ := List.mem_map.1 hs
    have hne := segment.key_ne_nil
    simp only [Marked.segment]
    split <;> simp [hne]
  have hany : (rest.map Marked.segment).any (·.key == serviceKey) = true ↔
      ∃ segment ∈ rest, segment.segment.key = serviceKey := by
    simp [List.any_eq_true]
  constructor
  · rw [get?, getVisible?, segments_marked, List.map_cons, resolve_visible_eq,
      resolve_eq bindings head.segment hkey]
    simp only [hany, true_and]
  · intro hend
    have hsame : segments (Written.path head.unmarked (rest.map Marked.unmarked)) =
        segments (Marked.path head rest) := by
      rw [segments_path, segments_marked, ← List.map_cons, List.map_map]
      exact List.map_congr_left fun segment hm => Marked.segment_unmarked (hend segment hm)
    unfold get? getVisible?
    rw [hsame]
    exact ⟨rfl, rfl⟩

namespace Sample

/-- A list of records, and a square of numbers. -/
def lists : Entries Json :=
  [("grid", .array [.array [.nat 1, .nat 2], .array [.nat 3, .nat 4]]),
    ("items", .array [.object [("id", .string "a")]])]

def zero : Numeral := ⟨['0'], by decide, by decide, by decide⟩

/-- The segment `items[0]?`. -/
def firstItem : Marked :=
  ⟨['i', 't', 'e', 'm', 's'], 0, [(zero, 1)], by decide, by decide⟩

/-- The segment `id??`. -/
def itsId : Marked := ⟨['i', 'd'], 2, [], by decide, by decide⟩

theorem atEnd_firstItem : ∀ segment ∈ [firstItem, itsId], segment.AtEnd := by
  intro segment hm
  rcases List.mem_cons.1 hm with rfl | hm
  · exact ⟨fun _ => rfl, nofun⟩
  · obtain rfl := List.mem_singleton.1 hm
    exact ⟨fun hne => absurd rfl hne, nofun⟩

end Sample

theorem get?_marked_sample :
    Marked.path Sample.firstItem [Sample.itsId] = "items[0]?.id??" ∧
      (∀ segment ∈ [Sample.firstItem, Sample.itsId], segment.AtEnd) ∧
      get? Sample.lists (Marked.path Sample.firstItem [Sample.itsId]) =
        get? Sample.lists (Written.path Sample.firstItem.unmarked [Sample.itsId.unmarked]) ∧
      get? Sample.lists (Marked.path Sample.firstItem [Sample.itsId]) = some (.string "a") := by
  obtain ⟨-, hignored⟩ := get?_marked Sample.lists Sample.firstItem [Sample.itsId]
  exact ⟨by decide +kernel, Sample.atEnd_firstItem, (hignored Sample.atEnd_firstItem).1, rfl⟩

/-- A marker before a bracket makes a value disappear, and one between two brackets leads to another
value. -/
theorem exists_marker_observed :
    ∃ bindings : Entries Json,
      get? bindings "items[0].id" = some (.string "a") ∧
      get? bindings "items?[0].id" = none ∧ getVisible? bindings "items?[0].id" = none ∧
      get? bindings "grid[0][1]" = some (.nat 2) ∧
      get? bindings "grid[0]?[1]" = some (.array [.nat 3, .nat 4]) :=
  ⟨Sample.lists, rfl, rfl, rfl, rfl, rfl⟩

end BrickPipeline.Path
