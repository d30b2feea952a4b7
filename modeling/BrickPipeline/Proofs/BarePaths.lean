import BrickPipeline.Document.Lint
import BrickPipeline.Proofs.PathGrammar
import Mathlib.Data.List.TakeWhile

/-!
Bare paths: a key, or a key and a field behind a dot, as texts outside templates may be. A key that
the lint takes for an identifier can stand in one, and so can the key under which an output key of
that kind is bound.
-/
namespace BrickPipeline

/-- The characters of the key under which an output key binds. -/
theorem toList_bindingKey (outputKey : String) :
    (bindingKey outputKey).toList = outputKey.toList ∧
        (∃ name, outputKey.toList = '@' :: name) ∨
      (bindingKey outputKey).toList = '@' :: outputKey.toList ∧
        ∀ name, outputKey.toList ≠ '@' :: name := by
  unfold bindingKey
  split
  · rename_i name hk
    exact Or.inl ⟨rfl, name, hk⟩
  · rename_i hk
    exact Or.inr ⟨String.toList_append, hk⟩

namespace Path

theorem toNat_of_isAlpha {c : Char} (h : c.isAlpha = true) :
    (65 ≤ c.toNat ∧ c.toNat ≤ 90) ∨ (97 ≤ c.toNat ∧ c.toNat ≤ 122) := by
  rcases (Bool.or_eq_true_iff).1 h with hupper | hlower
  · have hrange : c.val ≥ 'A'.val ∧ c.val ≤ 'Z'.val := of_decide_eq_true hupper
    exact Or.inl hrange
  · have hrange : (decide (c.val ≥ 'a'.val) && decide (c.val ≤ 'z'.val)) = true := hlower
    rw [Bool.and_eq_true_iff, decide_eq_true_eq, decide_eq_true_eq] at hrange
    exact Or.inr hrange

theorem isPlain_of_isAlpha {c : Char} (h : c.isAlpha = true) : isPlain c = true := by
  have hne (d : Char) (hd : d.isAlpha = false) : c ≠ d := by
    rintro rfl
    rw [h] at hd
    cases hd
  have hletter := toNat_of_isAlpha h
  have hblank : Text.isBlank c = false := by
    simp [Text.isBlank]
    omega
  simp [isPlain, hne '.' rfl, hne '[' rfl, hne '?' rfl, hblank]

/-- A path does not start like an index. -/
theorem not_index_of_isHeadStart {c : Char} (h : isHeadStart c = true) :
    c ≠ '+' ∧ c.isDigit = false := by
  simp only [isHeadStart, Bool.or_eq_true, beq_iff_eq] at h
  rcases h with ((h | rfl) | rfl) | rfl
  · have hletter := toNat_of_isAlpha h
    refine ⟨?_, Bool.eq_false_iff.2 fun hdigit => ?_⟩
    · rintro rfl
      cases h
    · have hrange : 48 ≤ c.toNat ∧ c.toNat ≤ 57 := by
        simpa [Char.isDigit, UInt32.le_iff_toNat_le] using hdigit
      omega
  · decide
  · decide
  · decide

/-- A character that identifiers are made of. -/
theorem plain_of_identifier {c : Char} (h : (Lint.isIdentifierStart c || c.isDigit) = true) :
    isPlain c = true ∧ isKeyChar c = true := by
  simp only [Lint.isIdentifierStart, Bool.or_eq_true, beq_iff_eq] at h
  rcases h with (h | rfl) | h
  · have hword := Text.isWord_of_isAlphanum (c := c) (by simp [Char.isAlphanum, h])
    exact ⟨isPlain_of_isAlpha h, by simp [isKeyChar, hword]⟩
  · decide
  · have hword := Text.isWord_of_isAlphanum (c := c) (by simp [Char.isAlphanum, h])
    exact ⟨isPlain_of_isDigit h, by simp [isKeyChar, hword]⟩

/-- A key that may be the first of a bare path, or a later one, and is read as it is written. -/
structure Bare (key : String) : Prop where
  starts : ∃ first rest, key.toList = first :: rest ∧ isHeadStart first = true
  plain : ∀ c ∈ key.toList, isPlain c = true
  keyChar : ∀ c ∈ key.toList, isKeyChar c = true

namespace Bare

theorem of_chars {key : String} {first : Char} {rest : List Char} (h : key.toList = first :: rest)
    (hfirst : isHeadStart first = true ∧ isPlain first = true ∧ isKeyChar first = true)
    (hrest : ∀ c ∈ rest, (Lint.isIdentifierStart c || c.isDigit) = true) : Bare key where
  starts := ⟨first, rest, h, hfirst.1⟩
  plain := by
    rw [h]
    exact List.forall_mem_cons.2 ⟨hfirst.2.1, fun c hc => (plain_of_identifier (hrest c hc)).1⟩
  keyChar := by
    rw [h]
    exact List.forall_mem_cons.2 ⟨hfirst.2.2, fun c hc => (plain_of_identifier (hrest c hc)).2⟩

theorem chars_of_isIdentifier {cs : List Char} (h : Lint.isIdentifier cs = true) :
    ∃ first rest, cs = first :: rest ∧ Lint.isIdentifierStart first = true ∧
      ∀ c ∈ rest, (Lint.isIdentifierStart c || c.isDigit) = true := by
  cases cs with
  | nil => cases h
  | cons first rest =>
    obtain ⟨hfirst, hrest⟩ := Bool.and_eq_true_iff.1 h
    exact ⟨first, rest, rfl, hfirst, List.all_eq_true.1 hrest⟩

/-- An identifier is such a key. -/
theorem of_isIdentifier {key : String} (h : Lint.isIdentifier key.toList = true) : Bare key := by
  obtain ⟨first, rest, hkey, hfirst, hrest⟩ := chars_of_isIdentifier h
  have hchar := plain_of_identifier (c := first) (by simp [hfirst])
  have hhead : isHeadStart first = true := by
    rw [Lint.isIdentifierStart] at hfirst
    simp [isHeadStart, hfirst]
  exact of_chars hkey ⟨hhead, hchar⟩ hrest

/-- So is the key under which an output key that the lint lets pass is bound. -/
theorem bindingKey {outputKey : String} (h : Lint.isOutputKey outputKey = true) :
    Bare (bindingKey outputKey) := by
  have hname : ∃ name, (BrickPipeline.bindingKey outputKey).toList = '@' :: name ∧
      Lint.isIdentifier name = true := by
    rcases toList_bindingKey outputKey with ⟨hkey, name, hat⟩ | ⟨hkey, hat⟩
    · rw [Lint.isOutputKey, hat] at h
      exact ⟨name, hkey.trans hat, h⟩
    · refine ⟨outputKey.toList, hkey, ?_⟩
      unfold Lint.isOutputKey at h
      split at h
      · rename_i name hk
        exact absurd hk (hat name)
      · exact h
  obtain ⟨name, hkey, hname⟩ := hname
  obtain ⟨first, rest, rfl, hfirst, hrest⟩ := chars_of_isIdentifier hname
  refine of_chars hkey (by decide) (List.forall_mem_cons.2 ⟨?_, hrest⟩)
  simp [hfirst]

variable {key field : String}

/-- A bare key as a segment that is written without positions and markers. -/
def written (bare : Bare key) : Written where
  key := key.toList
  numerals := []
  markers := 0
  key_ne_nil := by
    obtain ⟨first, rest, h, -⟩ := bare.starts
    simp [h]
  plain := List.all_eq_true.2 bare.plain

theorem text_written (bare : Bare key) : bare.written.text = key.toList := by
  simp [written, Written.text, bracketed]

theorem segment_written (bare : Bare key) : bare.written.segment = ⟨key, []⟩ := by
  simp [written, Written.segment]

theorem path_one (bare : Bare key) : Written.path bare.written [] = key := by
  simp [Written.path, text_written]

theorem toList_two (key field : String) :
    (key ++ "." ++ field).toList = key.toList ++ '.' :: field.toList := by
  simp [String.toList_append]

theorem path_two (bare : Bare key) (bareField : Bare field) :
    Written.path bare.written [bareField.written] = key ++ "." ++ field := by
  apply String.toList_inj.1
  rw [toList_two]
  simp [Written.path, text_written, List.intercalate]

/-- A look-up of one key finds what is bound under it. -/
theorem resolve_one (bare : Bare key) (visibleOnly : Bool) (bindings : Entries Json) :
    resolve visibleOnly bindings (segments key) = Entries.get? key bindings := by
  have hsegments := segments_path bare.written []
  rw [path_one] at hsegments
  rw [hsegments, List.map_cons, segment_written, List.map_nil, resolve_cons]
  exact Option.bind_fun_some _

theorem parseIndex?_eq_none (bare : Bare key) : Text.parseIndex? key.toList = none := by
  obtain ⟨first, rest, hkey, hfirst⟩ := bare.starts
  obtain ⟨hplus, hdigit⟩ := not_index_of_isHeadStart hfirst
  rw [hkey]
  unfold Text.parseIndex?
  split
  · rename_i he
    exact absurd (List.cons.inj he).1 hplus
  · simp [hdigit]

/-- A bare key is no index, so it only leads to fields. -/
theorem atKey_eq (bare : Bare key) (value : Json) : atKey value key = value.get? key := by
  cases value with
  | array items =>
    rw [atKey, bare.parseIndex?_eq_none]
    rfl
  | _ => rfl

/-- A look-up of a second key finds that field of what is bound, records aside. -/
theorem resolve_field (bare : Bare key) (bareField : Bare field) (visible : field ≠ serviceKey)
    (visibleOnly : Bool) {bindings : Entries Json} {value : Json}
    (h : Entries.get? key bindings = some value) :
    resolve visibleOnly bindings (segments (key ++ "." ++ field)) = value.get? field := by
  have hsegments := segments_path bare.written [bareField.written]
  rw [path_two] at hsegments
  obtain ⟨first, rest, hfirst, -⟩ := bareField.starts
  have hempty : field ≠ "" := by
    rintro rfl
    cases hfirst
  have hstep : step visibleOnly value ⟨field, []⟩ = value.get? field := by
    rw [step, if_neg (by simp [visible]), if_neg (by simpa using hempty), bareField.atKey_eq]
    exact Option.bind_fun_some _
  rw [hsegments, List.map_cons, List.map_cons, segment_written, segment_written, List.map_nil,
    resolve_cons, h]
  show (step visibleOnly value ⟨field, []⟩).bind _ = _
  rw [hstep]
  exact Option.bind_fun_some _

theorem resolve_two (bare : Bare key) (bareField : Bare field) (visible : field ≠ serviceKey)
    (visibleOnly : Bool) {bindings fields : Entries Json}
    (h : Entries.get? key bindings = some (.object fields)) :
    resolve visibleOnly bindings (segments (key ++ "." ++ field)) = Entries.get? field fields :=
  bare.resolve_field bareField visible visibleOnly h

theorem notMem_dot (bare : Bare key) : '.' ∉ key.toList := fun h =>
  (isPlain_iff.1 (bare.plain '.' h)).1 rfl

theorem dropEndWhile_marker (bare : Bare key) :
    Text.dropEndWhile (· == '?') key.toList = key.toList := by
  refine Text.dropEndWhile_of_getLast fun c hc => beq_eq_false_iff_ne.2 ?_
  exact (isPlain_iff.1 (bare.plain c (List.mem_of_getLast? hc))).2.2.1

theorem isKeyTail_of_forall {cs : List Char} (h : ∀ c ∈ cs, isKeyChar c = true) :
    isKeyTail cs = true := by
  have hrest : cs.dropWhile isKeyChar = [] := List.dropWhile_eq_nil_iff.2 h
  rw [isKeyTail, hrest]
  rfl

theorem isHeadPiece (bare : Bare key) : Path.isHeadPiece key.toList = true := by
  obtain ⟨first, rest, hkey, hfirst⟩ := bare.starts
  have hchars := bare.keyChar
  rw [hkey] at hchars ⊢
  rw [Path.isHeadPiece, hfirst, isKeyTail_of_forall (List.forall_mem_cons.1 hchars).2]
  rfl

theorem isLaterPiece (bare : Bare key) : Path.isLaterPiece key.toList = true := by
  obtain ⟨first, rest, hkey, -⟩ := bare.starts
  have hchars := bare.keyChar
  rw [hkey] at hchars ⊢
  obtain ⟨hfirst, hrest⟩ := List.forall_mem_cons.1 hchars
  rw [Path.isLaterPiece, hfirst, isKeyTail_of_forall hrest]
  rfl

/-- A bare path is told from a template by what its first key is bound to. -/
theorem isSimple_one (bare : Bare key) (bindings : Entries Json) :
    isSimple key bindings = Entries.contains key bindings := by
  rw [isSimple, Text.splitOn_of_notMem bare.notMem_dot]
  simp [bare.isHeadPiece, bare.dropEndWhile_marker]

theorem isSimple_two (bare : Bare key) (bareField : Bare field) (bindings : Entries Json) :
    isSimple (key ++ "." ++ field) bindings = Entries.contains key bindings := by
  rw [isSimple, toList_two, Text.splitOn_append_cons bare.notMem_dot,
    Text.splitOn_of_notMem bareField.notMem_dot]
  simp [bare.isHeadPiece, bareField.isLaterPiece, bare.dropEndWhile_marker]

end Bare
end Path
end BrickPipeline
