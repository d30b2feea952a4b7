import BrickPipeline.Proofs.Codec
import Mathlib.Data.List.Basic

/-!
The grammar of brick identifiers. An identifier is read from exactly the texts that follow it and
kept as it is written, so it is read back from JSON; one with a scope consists of the scope and an
identifier without one.
-/
namespace BrickPipeline

namespace Json

/-- A character that stands for itself between quotes. -/
def IsPlain (c : Char) : Prop := c ≠ '"' ∧ c ≠ '\\' ∧ 32 ≤ c.toNat

theorem escapeChar_of_isPlain {c : Char} (h : IsPlain c) : escapeChar c = [c] := by
  obtain ⟨hquote, hslash, hcontrol⟩ := h
  unfold escapeChar
  split
  case h_1 => exact absurd rfl hquote
  case h_2 => exact absurd rfl hslash
  case h_8 => exact if_neg (by omega)
  all_goals exact absurd hcontrol (by decide)

/-- Plain characters are read one by one, up to the closing quote. -/
theorem Reader.chars_of_isPlain {cs : List Char} (h : ∀ c ∈ cs, IsPlain c) (seen rest : List Char) :
    chars true seen (cs ++ '"' :: rest) =
      some ⟨some (String.ofList (seen.reverse ++ cs)), rest⟩ := by
  induction cs generalizing seen with
  | nil => simp [chars]
  | cons c cs ih =>
    obtain ⟨⟨hquote, hslash, hcontrol⟩, hrest⟩ := List.forall_mem_cons.1 h
    have hread : chars true seen (c :: (cs ++ '"' :: rest)) =
        chars true (c :: seen) (cs ++ '"' :: rest) := by
      rw [chars.eq_def]
      -- Every other case starts with a quote, a backslash or a control character.
      split <;> simp_all
    rw [List.cons_append, hread, ih hrest, List.reverse_cons, List.append_assoc,
      List.singleton_append]

/-- A text that needs no escapes is read back from between its quotes. -/
theorem readTree?_quote {text : String} (h : ∀ c ∈ text.toList, IsPlain c) :
    readTree? (quote text) = some (.string text) := by
  have hwritten : text.toList.flatMap escapeChar = text.toList := by
    rw [List.flatMap_congr fun c hc => escapeChar_of_isPlain (h c hc), List.flatMap_singleton']
  have hchars := Reader.chars_of_isPlain h [] []
  have hquote : (quote text).toList = '"' :: (text.toList ++ ['"']) := by
    rw [quote, hwritten, String.toList_ofList, List.cons_append]
  have hskip : Reader.skip (quote text).toList = '"' :: (text.toList ++ ['"']) := by
    rw [hquote]
    rfl
  have hvalue (fuel room : Nat) :
      Reader.value (fuel + 1) room (quote text).toList = some (.string text, []) := by
    rw [Reader.value, hskip]
    simp [hchars]
  simp only [readTree?, Reader.readTree?, hvalue]
  rfl

end Json

namespace BrickId

/-- A lower-case letter or a digit. -/
def Starts (c : Char) : Prop := ('a' ≤ c ∧ c ≤ 'z') ∨ ('0' ≤ c ∧ c ≤ '9')

/-- A character that may stand in a segment behind its first one. -/
def Continues (c : Char) : Prop := Starts c ∨ c ∈ ['.', '_', '~', '-']

inductive Segment : List Char → Prop where
  | intro {first : Char} {rest : List Char} (starts : Starts first)
    (continues : ∀ c ∈ rest, Continues c) : Segment (first :: rest)

/-- One or more segments, with slashes between them. -/
inductive Joined : List Char → Prop where
  | intro {segments : List (List Char)} (nonempty : segments ≠ [])
    (each : ∀ segment ∈ segments, Segment segment) : Joined (['/'].intercalate segments)

/-- The texts of identifiers. -/
inductive Grammar : List Char → Prop where
  | bare {cs : List Char} (joined : Joined cs) : Grammar cs
  | inScope {scope cs : List Char} (segment : Segment scope) (joined : Joined cs) :
    Grammar ('@' :: scope ++ '/' :: cs)

theorem isStart_iff {c : Char} : isStart c = true ↔ Starts c := by
  have hlower : c.isLower = true ↔ 'a' ≤ c ∧ c ≤ 'z' :=
    Bool.and_eq_true_iff.trans (and_congr decide_eq_true_iff decide_eq_true_iff)
  have hdigit : c.isDigit = true ↔ '0' ≤ c ∧ c ≤ '9' :=
    Bool.and_eq_true_iff.trans (and_congr decide_eq_true_iff decide_eq_true_iff)
  rw [isStart, Bool.or_eq_true, hlower, hdigit]
  rfl

theorem isInner_iff {c : Char} : isInner c = true ↔ Continues c := by
  simp [isInner, Continues, isStart_iff, or_assoc]

theorem isSegment_iff {cs : List Char} : isSegment cs = true ↔ Segment cs := by
  constructor
  · intro h
    cases cs with
    | nil => cases h
    | cons first rest =>
      obtain ⟨hfirst, hrest⟩ := Bool.and_eq_true_iff.1 h
      exact .intro (isStart_iff.1 hfirst) fun c hc => isInner_iff.1 (List.all_eq_true.1 hrest c hc)
  · rintro ⟨starts, continues⟩
    exact Bool.and_eq_true_iff.2 ⟨isStart_iff.2 starts,
      List.all_eq_true.2 fun c hc => isInner_iff.2 (continues c hc)⟩

theorem Starts.toNat {c : Char} (h : Starts c) :
    (97 ≤ c.toNat ∧ c.toNat ≤ 122) ∨ (48 ≤ c.toNat ∧ c.toNat ≤ 57) := h

theorem Continues.ne_slash {c : Char} (h : Continues c) : c ≠ '/' := by
  rintro rfl
  exact absurd (isInner_iff.2 h) (by decide)

namespace Segment

theorem notMem_slash {segment : List Char} (h : Segment segment) : '/' ∉ segment := by
  obtain ⟨starts, continues⟩ := h
  intro hm
  rcases List.mem_cons.1 hm with rfl | hrest
  · exact (Continues.ne_slash (.inl starts)) rfl
  · exact (continues _ hrest).ne_slash rfl

theorem head?_ne_at {segment : List Char} (h : Segment segment) : segment.head? ≠ some '@' := by
  obtain ⟨starts, -⟩ := h
  rintro ⟨⟩
  exact absurd (isStart_iff.2 starts) (by decide)

end Segment

/-- The segments of a text are what stands between its slashes. -/
theorem all_isSegment_iff {cs : List Char} :
    (Text.splitOn '/' cs).all isSegment = true ↔ Joined cs := by
  constructor
  · intro h
    have each : ∀ segment ∈ Text.splitOn '/' cs, Segment segment := fun segment hm =>
      isSegment_iff.1 (List.all_eq_true.1 h segment hm)
    have joined := Joined.intro (Text.splitOn_ne_nil '/' cs) each
    rwa [Text.intercalate_splitOn] at joined
  · rintro ⟨nonempty, each⟩
    rw [Text.splitOn_intercalate nonempty fun segment hm => (each segment hm).notMem_slash]
    exact List.all_eq_true.2 fun segment hm => isSegment_iff.2 (each segment hm)

theorem Joined.head?_ne_at {cs : List Char} (h : Joined cs) : cs.head? ≠ some '@' := by
  obtain ⟨nonempty, each⟩ := h
  rename_i segments
  obtain ⟨segment, rest, rfl⟩ := List.exists_cons_of_ne_nil nonempty
  have first : Segment segment := each segment List.mem_cons_self
  have hhead : (['/'].intercalate (segment :: rest)).head? = segment.head? := by
    obtain ⟨-, -⟩ := first
    cases rest with
    | nil => simp [List.intercalate]
    | cons next more => simp [List.intercalate_cons_cons]
  rw [hhead]
  exact first.head?_ne_at

/-- Two or more segments are a first one and one or more others. -/
theorem scope_and_segments_iff {rest : List Char} :
    (2 ≤ (Text.splitOn '/' rest).length ∧ (Text.splitOn '/' rest).all isSegment = true) ↔
      ∃ scope cs, Segment scope ∧ Joined cs ∧ rest = scope ++ '/' :: cs := by
  constructor
  · rintro ⟨hlength, hall⟩
    have hrest := Text.intercalate_splitOn '/' rest
    generalize Text.splitOn '/' rest = pieces at hlength hall hrest
    match pieces, hlength with
    | scope :: next :: more, _ =>
      have each : ∀ segment ∈ scope :: next :: more, Segment segment := fun segment hm =>
        isSegment_iff.1 (List.all_eq_true.1 hall segment hm)
      obtain ⟨hscope, hothers⟩ := List.forall_mem_cons.1 each
      refine ⟨scope, _, hscope, .intro (List.cons_ne_nil next more) hothers, ?_⟩
      rw [← hrest, List.intercalate_cons_cons, List.append_assoc, List.singleton_append]
  · rintro ⟨scope, cs, hscope, hjoined, rfl⟩
    rw [Text.splitOn_append_cons hscope.notMem_slash]
    have hlength := List.length_pos_iff.2 (Text.splitOn_ne_nil '/' cs)
    refine ⟨?_, ?_⟩
    · rw [List.length_cons]
      omega
    · rw [List.all_cons, Bool.and_eq_true]
      exact ⟨isSegment_iff.2 hscope, all_isSegment_iff.2 hjoined⟩

theorem isWellFormed_iff {cs : List Char} : isWellFormed cs = true ↔ Grammar cs := by
  unfold isWellFormed
  split
  · rename_i rest
    rw [Bool.and_eq_true, decide_eq_true_eq, scope_and_segments_iff]
    constructor
    · rintro ⟨scope, cs, hscope, hjoined, rfl⟩
      exact .inScope hscope hjoined
    · intro h
      generalize hcs : '@' :: rest = cs at h
      cases h with
      | bare joined =>
        rw [← hcs] at joined
        exact absurd rfl joined.head?_ne_at
      | inScope segment joined => exact ⟨_, _, segment, joined, (List.cons.inj hcs).2⟩
  · rename_i hat
    rw [all_isSegment_iff]
    constructor
    · exact .bare
    · rintro (joined | _)
      · exact joined
      · exact absurd rfl (hat _)

theorem parse_eq_ok_iff {text : String} {id : BrickId} : parse text = .ok id ↔ id.text = text := by
  constructor
  · intro h
    unfold parse at h
    split at h
    · rename_i hread
      cases h
      exact text_of_parse? hread
    · cases h
  · rintro rfl
    rw [parse, parse?_text]

/-- A text that follows the grammar is that of an identifier. -/
theorem exists_parse_iff {text : String} :
    (∃ id, parse text = .ok id) ↔ Grammar text.toList := by
  rw [← isWellFormed_iff]
  constructor
  · rintro ⟨id, h⟩
    rw [← parse_eq_ok_iff.1 h]
    exact id.wellFormed
  · exact fun h => ⟨⟨text, h⟩, parse_eq_ok_iff.2 rfl⟩

theorem eq_of_parse_eq_error {text : String} {fault : Error} (h : parse text = .error fault) :
    fault = .invalidBrickId text := by
  unfold parse at h
  split at h
  · cases h
  · cases h
    rfl

theorem grammar (id : BrickId) : Grammar id.text.toList := isWellFormed_iff.1 id.wellFormed

theorem Continues.isPlain {c : Char} (h : Continues c) : Json.IsPlain c := by
  rcases h with h | h
  · have hrange := h.toNat
    have hne (d : Char) (hd : d.toNat < 48 ∨ (57 < d.toNat ∧ d.toNat < 97)) : c ≠ d := by
      rintro rfl
      omega
    exact ⟨hne _ (by decide), hne _ (by decide), by omega⟩
  · simp only [List.mem_cons, List.not_mem_nil, or_false] at h
    rcases h with rfl | rfl | rfl | rfl <;> exact ⟨by decide, by decide, by decide⟩

theorem Segment.isPlain {segment : List Char} (h : Segment segment) :
    ∀ c ∈ segment, Json.IsPlain c := by
  obtain ⟨starts, continues⟩ := h
  exact List.forall_mem_cons.2 ⟨Continues.isPlain (.inl starts),
    fun c hc => (continues c hc).isPlain⟩

theorem isPlain_slash : Json.IsPlain '/' := ⟨by decide, by decide, by decide⟩

theorem Joined.isPlain {cs : List Char} (h : Joined cs) : ∀ c ∈ cs, Json.IsPlain c := by
  obtain ⟨-, each⟩ := h
  intro c hc
  rcases Text.mem_intercalate hc with rfl | ⟨segment, hm, hc⟩
  · exact isPlain_slash
  · exact (each segment hm).isPlain c hc

/-- Identifiers are written in JSON without escapes. -/
theorem Grammar.isPlain {cs : List Char} (h : Grammar cs) : ∀ c ∈ cs, Json.IsPlain c := by
  cases h with
  | bare joined => exact joined.isPlain
  | inScope segment joined =>
    intro c hc
    simp only [List.cons_append, List.mem_cons, List.mem_append] at hc
    rcases hc with rfl | hc | rfl | hc
    · exact ⟨by decide, by decide, by decide⟩
    · exact segment.isPlain c hc
    · exact isPlain_slash
    · exact joined.isPlain c hc

theorem ofText_render (id : BrickId) :
    Wire.ofText Wire.brickId (Json.render (.string id.text)) = .ok id := by
  have hread : Json.readTree? (Json.render (.string id.text)) = some (.string id.text) :=
    Json.readTree?_quote id.grammar.isPlain
  rw [Wire.ofText, hread]
  simp only [Wire.brickId_text]

theorem scope?_eq_none {id : BrickId} (h : id.text.toList.head? ≠ some '@') :
    id.scope? = none := by
  unfold scope?
  split
  · rename_i hat
    exact absurd (hat ▸ rfl) h
  · rfl

theorem scope?_of_segment {id : BrickId} {scope cs : List Char} (segment : Segment scope)
    (h : id.text.toList = '@' :: scope ++ '/' :: cs) :
    id.scope? = some (String.ofList ('@' :: scope)) := by
  have hslash : '/' ∉ '@' :: scope := by
    simpa using segment.notMem_slash
  unfold scope?
  rw [h]
  show (Text.splitOn '/' ('@' :: scope ++ '/' :: cs)).head?.map String.ofList = _
  rw [Text.splitOn_append_cons hslash]
  rfl

/-- An identifier that starts with an `@` consists of its scope and an identifier without one. -/
theorem exists_of_scope? {id : BrickId} {scope : String} (h : id.scope? = some scope) :
    ∃ rest : BrickId, id.text = scope ++ "/" ++ rest.text ∧ rest.scope? = none := by
  have hgrammar := id.grammar
  generalize hcs : id.text.toList = cs at hgrammar
  cases hgrammar with
  | bare joined =>
    rw [scope?_eq_none (hcs ▸ joined.head?_ne_at)] at h
    cases h
  | @inScope name cs segment joined =>
    have hscope : scope = String.ofList ('@' :: name) := by
      rw [scope?_of_segment segment hcs] at h
      exact (Option.some.inj h).symm
    have hwellFormed : isWellFormed (String.ofList cs).toList = true := by
      rw [String.toList_ofList]
      exact isWellFormed_iff.2 (.bare joined)
    refine ⟨⟨String.ofList cs, hwellFormed⟩, ?_, ?_⟩
    · apply String.toList_injective
      rw [hcs, hscope]
      simp [String.toList_append]
    · apply scope?_eq_none
      rw [String.toList_ofList]
      exact joined.head?_ne_at

theorem isSome_scope?_iff (id : BrickId) :
    id.scope?.isSome = true ↔ id.text.toList.head? = some '@' := by
  have hgrammar := id.grammar
  generalize hcs : id.text.toList = cs at hgrammar
  cases hgrammar with
  | bare joined => simp [scope?_eq_none (hcs ▸ joined.head?_ne_at), joined.head?_ne_at]
  | inScope segment joined => simp [scope?_of_segment segment hcs]

/-- Reading accepts exactly the texts that follow the grammar, and keeps them. What is read can be
written as JSON and read back; its scope is what stands before the first slash of a text that
starts with an `@`, and behind that slash stands an identifier without a scope. -/
theorem parse_exact (text : String) :
    ((∃ id, parse text = .ok id) ↔ Grammar text.toList) ∧
      (∀ fault, parse text = .error fault → fault = .invalidBrickId text) ∧
      ∀ id, parse text = .ok id →
        id.text = text ∧
          Wire.brickId (.string id.text) = .ok id ∧
          Wire.ofText Wire.brickId (Json.render (.string id.text)) = .ok id ∧
          (id.scope?.isSome = true ↔ text.toList.head? = some '@') ∧
          ∀ scope, id.scope? = some scope →
            ∃ rest, text = scope ++ "/" ++ rest ∧
              ∃ bare, parse rest = .ok bare ∧ bare.scope? = none := by
  refine ⟨exists_parse_iff, fun fault => eq_of_parse_eq_error, fun id h => ?_⟩
  obtain rfl := parse_eq_ok_iff.1 h
  refine ⟨rfl, Wire.brickId_text id, id.ofText_render, id.isSome_scope?_iff, fun scope hscope => ?_⟩
  obtain ⟨bare, htext, hbare⟩ := exists_of_scope? hscope
  exact ⟨bare.text, htext, bare, parse_eq_ok_iff.2 rfl, hbare⟩

theorem parse_exact_sample :
    let id : BrickId := ⟨"@brick/for-each", by decide⟩
    parse "@brick/for-each" = .ok id ∧ Grammar "@brick/for-each".toList ∧
      Wire.ofText Wire.brickId (Json.render (.string "@brick/for-each")) = .ok id ∧
      id.scope? = some "@brick" ∧
      ∃ rest, "@brick/for-each" = "@brick" ++ "/" ++ rest ∧
        ∃ bare, parse rest = .ok bare ∧ bare.scope? = none := by
  intro id
  have hparse : parse "@brick/for-each" = .ok id := parse_eq_ok_iff.2 rfl
  have hscope : id.scope? = some "@brick" := by decide
  obtain ⟨accepts, -, reads⟩ := parse_exact "@brick/for-each"
  obtain ⟨-, -, hjson, -, hparts⟩ := reads id hparse
  exact ⟨hparse, accepts.1 ⟨id, hparse⟩, hjson, hscope, hparts "@brick" hscope⟩

end BrickId
end BrickPipeline
