/-!
Scanning of text as a list of characters: blanks at the ends, pieces between separators, the first
place of a mark, decimal numerals.
-/
namespace BrickPipeline.Text

def isBlank (c : Char) : Bool :=
  let n := c.toNat
  (9 ≤ n && n ≤ 13) || n == 0x20 || n == 0x85 || n == 0xa0 || n == 0x1680 ||
    (0x2000 ≤ n && n ≤ 0x200a) || n == 0x2028 || n == 0x2029 || n == 0x202f || n == 0x205f ||
    n == 0x3000

def dropEndWhile (p : Char → Bool) (cs : List Char) : List Char :=
  (cs.reverse.dropWhile p).reverse

def trim (cs : List Char) : List Char :=
  dropEndWhile isBlank (cs.dropWhile isBlank)

def trimmed (s : String) : String := String.ofList (trim s.toList)

/-- The pieces between separators; one piece more than there are separators. -/
def splitOn (separator : Char) : List Char → List (List Char)
  | [] => [[]]
  | c :: cs =>
    if c = separator then [] :: splitOn separator cs
    else match splitOn separator cs with
      | [] => [[c]]
      | piece :: pieces => (c :: piece) :: pieces

/-- The text before the first place where a mark stands, and the text behind the mark. -/
def cut? (mark : List Char) : List Char → Option (List Char × List Char)
  | [] => none
  | c :: cs =>
    if mark.isPrefixOf (c :: cs) then some ([], (c :: cs).drop mark.length)
    else (cut? mark cs).map fun parts => (c :: parts.1, parts.2)

def digitsValue (cs : List Char) : Nat :=
  cs.foldl (fun n c => 10 * n + (c.toNat - '0'.toNat)) 0

def indexBound : Nat := Nat.pow 2 64

/-- An index: decimal digits, after an optional plus sign, below `indexBound`. -/
def parseIndex? (cs : List Char) : Option Nat :=
  let digits := match cs with
    | '+' :: rest => rest
    | _ => cs
  if digits.isEmpty || !digits.all Char.isDigit then none
  else
    let n := digitsValue digits
    if n < indexBound then some n else none

theorem splitOn_ne_nil (separator : Char) (cs : List Char) : splitOn separator cs ≠ [] := by
  cases cs with
  | nil => simp [splitOn]
  | cons c cs =>
    unfold splitOn
    split
    · simp
    · split <;> simp

theorem splitOn_of_notMem {separator : Char} {cs : List Char} (h : separator ∉ cs) :
    splitOn separator cs = [cs] := by
  induction cs with
  | nil => rfl
  | cons c cs ih =>
    rw [List.mem_cons, not_or] at h
    rw [splitOn, if_neg (Ne.symm h.1), ih h.2]

theorem splitOn_append_separator (separator : Char) (cs rest : List Char) :
    splitOn separator (cs ++ separator :: rest) =
      splitOn separator cs ++ splitOn separator rest := by
  induction cs with
  | nil =>
    have hempty : splitOn separator [] = [[]] := rfl
    rw [List.nil_append, hempty, splitOn, if_pos rfl, List.singleton_append]
  | cons c cs ih =>
    rw [List.cons_append, splitOn, splitOn]
    by_cases hc : c = separator
    · rw [if_pos hc, if_pos hc, ih, List.cons_append]
    · rw [if_neg hc, if_neg hc, ih]
      obtain ⟨piece, pieces, h⟩ := List.exists_cons_of_ne_nil (splitOn_ne_nil separator cs)
      rw [h]
      rfl

theorem splitOn_append_cons {separator : Char} {piece : List Char} (h : separator ∉ piece)
    (rest : List Char) :
    splitOn separator (piece ++ separator :: rest) = piece :: splitOn separator rest := by
  rw [splitOn_append_separator, splitOn_of_notMem h, List.singleton_append]

/-- What follows without a separator belongs to the last piece. -/
theorem splitOn_append_of_notMem {separator : Char} {more : List Char} (h : separator ∉ more)
    (cs : List Char) :
    ∃ init last, splitOn separator cs = init ++ [last] ∧
      splitOn separator (cs ++ more) = init ++ [last ++ more] := by
  induction cs with
  | nil => exact ⟨[], [], rfl, splitOn_of_notMem h⟩
  | cons c cs ih =>
    obtain ⟨init, last, hcs, hmore⟩ := ih
    rw [List.cons_append, splitOn, splitOn, hcs, hmore]
    by_cases hc : c = separator
    · exact ⟨[] :: init, last, by rw [if_pos hc]; rfl, by rw [if_pos hc]; rfl⟩
    · rw [if_neg hc, if_neg hc]
      cases init with
      | nil => exact ⟨[], c :: last, rfl, rfl⟩
      | cons piece pieces => exact ⟨(c :: piece) :: pieces, last, rfl, rfl⟩

/-- Joining the pieces with the separator gives the text back. -/
theorem intercalate_splitOn (separator : Char) (cs : List Char) :
    [separator].intercalate (splitOn separator cs) = cs := by
  induction cs with
  | nil => rfl
  | cons c cs ih =>
    unfold splitOn
    split
    · rename_i hc
      cases h : splitOn separator cs with
      | nil => exact absurd h (splitOn_ne_nil separator cs)
      | cons piece pieces =>
        rw [h] at ih
        subst hc
        simp [List.intercalate, List.intersperse] at ih ⊢
        exact ih
    · cases h : splitOn separator cs with
      | nil => exact absurd h (splitOn_ne_nil separator cs)
      | cons piece pieces =>
        rw [h] at ih
        cases pieces with
        | nil => simpa [List.intercalate] using ih
        | cons p ps => simpa [List.intercalate, List.intersperse] using ih

theorem mem_intercalate {separator c : Char} {pieces : List (List Char)}
    (h : c ∈ [separator].intercalate pieces) : c = separator ∨ ∃ piece ∈ pieces, c ∈ piece := by
  induction pieces with
  | nil => cases h
  | cons piece rest ih =>
    cases rest with
    | nil => exact Or.inr ⟨piece, List.mem_cons_self, by simpa [List.intercalate] using h⟩
    | cons next more =>
      rw [List.intercalate_cons_cons, List.append_assoc, List.singleton_append] at h
      rcases List.mem_append.1 h with hp | hm
      · exact Or.inr ⟨piece, List.mem_cons_self, hp⟩
      · rcases List.mem_cons.1 hm with hs | hm
        · exact Or.inl hs
        · exact (ih hm).imp_right fun ⟨other, ho, hc⟩ => ⟨other, List.mem_cons_of_mem _ ho, hc⟩

theorem splitOn_intercalate {separator : Char} {pieces : List (List Char)} (hne : pieces ≠ [])
    (h : ∀ piece ∈ pieces, separator ∉ piece) :
    splitOn separator ([separator].intercalate pieces) = pieces := by
  induction pieces with
  | nil => exact absurd rfl hne
  | cons piece rest ih =>
    obtain ⟨hp, hr⟩ := List.forall_mem_cons.1 h
    cases rest with
    | nil => simpa [List.intercalate] using splitOn_of_notMem hp
    | cons next more =>
      rw [List.intercalate_cons_cons, List.append_assoc, List.singleton_append,
        splitOn_append_cons hp, ih (List.cons_ne_nil _ _) hr]

theorem suffix_intercalate (separator : Char) (init : List (List Char)) (last : List Char) :
    last <:+ [separator].intercalate (init ++ [last]) := by
  induction init with
  | nil => simp [List.intercalate]
  | cons piece rest ih =>
    obtain ⟨next, more, h⟩ := List.exists_cons_of_ne_nil (List.concat_ne_nil last rest)
    rw [List.cons_append, h, List.intercalate_cons_cons, ← h]
    exact ih.trans (List.suffix_append _ _)

theorem dropWhile_of_head {p : Char → Bool} {cs : List Char} (h : ∀ c ∈ cs.head?, p c = false) :
    cs.dropWhile p = cs := by
  cases cs with
  | nil => rfl
  | cons c cs => exact List.dropWhile_cons_of_neg (by simp [h c rfl])

theorem dropWhile_of_forall {p : Char → Bool} {cs : List Char} (h : ∀ c ∈ cs, p c = false) :
    cs.dropWhile p = cs :=
  dropWhile_of_head fun c hc => h c (List.mem_of_mem_head? hc)

/-- Only what is dropped stands behind the last character that is kept. -/
theorem dropEndWhile_append_of_getLast {p : Char → Bool} {kept dropped : List Char}
    (hk : ∀ c ∈ kept.getLast?, p c = false) (hd : ∀ c ∈ dropped, p c = true) :
    dropEndWhile p (kept ++ dropped) = kept := by
  have hlast : ∀ c ∈ kept.reverse.head?, p c = false := by
    rw [List.head?_reverse]
    exact hk
  unfold dropEndWhile
  rw [List.reverse_append, List.dropWhile_append_of_pos fun c hc => hd c (List.mem_reverse.1 hc),
    dropWhile_of_head hlast, List.reverse_reverse]

theorem dropEndWhile_append {p : Char → Bool} {kept dropped : List Char}
    (hk : ∀ c ∈ kept, p c = false) (hd : ∀ c ∈ dropped, p c = true) :
    dropEndWhile p (kept ++ dropped) = kept :=
  dropEndWhile_append_of_getLast (fun c hc => hk c (List.mem_of_getLast? hc)) hd

theorem dropEndWhile_of_getLast {p : Char → Bool} {cs : List Char}
    (h : ∀ c ∈ cs.getLast?, p c = false) : dropEndWhile p cs = cs := by
  have hnone : dropEndWhile p (cs ++ []) = cs := dropEndWhile_append_of_getLast h nofun
  rwa [List.append_nil] at hnone

theorem trim_of_forall {cs : List Char} (h : ∀ c ∈ cs, isBlank c = false) :
    trim cs = cs := by
  rw [trim, dropWhile_of_forall h,
    dropEndWhile_of_getLast fun c hc => h c (List.mem_of_getLast? hc)]

theorem mem_getLast?_of_suffix {tail cs : List Char} (h : tail <:+ cs) {c : Char}
    (hc : c ∈ tail.getLast?) : c ∈ cs.getLast? := by
  obtain ⟨start, rfl⟩ := h
  rw [List.getLast?_append, Option.mem_def.1 hc]
  rfl

/-- A text that ends in no blank is trimmed at its start alone. -/
theorem trim_of_getLast {cs : List Char} (h : ∀ c ∈ cs.getLast?, isBlank c = false) :
    trim cs = cs.dropWhile isBlank :=
  dropEndWhile_of_getLast fun c hc =>
    h c (mem_getLast?_of_suffix (List.dropWhile_suffix isBlank) hc)

/-- What stands behind a character that is no blank is not trimmed, but for blanks at its end. -/
theorem trim_append {cs more : List Char} {c : Char} (hc : cs.getLast? = some c)
    (hblank : isBlank c = false) (hm : ∀ d ∈ more.getLast?, isBlank d = false) :
    trim (cs ++ more) = trim cs ++ more := by
  have hcs : ∀ d ∈ cs.getLast?, isBlank d = false := by
    intro d hd
    rw [hc] at hd
    exact Option.mem_some.1 hd ▸ hblank
  have hall : ∀ d ∈ (cs ++ more).getLast?, isBlank d = false := by
    intro d hd
    rw [List.getLast?_append] at hd
    cases hmore : more.getLast? with
    | none =>
      rw [hmore, Option.none_or] at hd
      exact hcs d hd
    | some last =>
      rw [hmore, Option.some_or] at hd
      exact hm d (hmore.trans hd)
  have hkept : cs.dropWhile isBlank ≠ [] := by
    intro hnil
    have hblanks : (cs.takeWhile isBlank).all isBlank = true := List.all_takeWhile
    have hsplit := List.takeWhile_append_dropWhile (p := isBlank) (l := cs)
    rw [hnil, List.append_nil] at hsplit
    rw [hsplit] at hblanks
    have hc' := List.all_eq_true.1 hblanks c (List.mem_of_getLast? hc)
    rw [hblank] at hc'
    cases hc'
  rw [trim_of_getLast hall, trim_of_getLast hcs, List.dropWhile_append, if_neg]
  simpa using hkept

theorem parseIndex?_of_isDigit {digits : List Char} (hne : digits ≠ [])
    (hall : digits.all Char.isDigit = true) (hbound : digitsValue digits < indexBound) :
    parseIndex? digits = some (digitsValue digits) := by
  have hplus : ∀ rest, digits ≠ '+' :: rest := by
    rintro rest rfl
    exact absurd (List.all_eq_true.1 hall '+' List.mem_cons_self) (by decide)
  unfold parseIndex?
  split
  · exact absurd rfl (hplus _)
  · simp [hne, hall, hbound]

section Cut

variable {mark : List Char} (hm : mark ≠ [])

include hm

theorem cut?_prefix (rest : List Char) : cut? mark (mark ++ rest) = some ([], rest) := by
  obtain ⟨c, cs, rfl⟩ := List.exists_cons_of_ne_nil hm
  have hp : (c :: cs).isPrefixOf (c :: cs ++ rest) = true :=
    List.isPrefixOf_iff_prefix.2 (List.prefix_append _ _)
  rw [List.cons_append] at hp ⊢
  rw [cut?, if_pos hp, ← List.cons_append, List.drop_left]

omit hm in
theorem cut?_cons {c : Char} {cs : List Char} (hp : ¬ mark <+: c :: cs) :
    cut? mark (c :: cs) = (cut? mark cs).map fun parts => (c :: parts.1, parts.2) := by
  rw [cut?, if_neg (mt List.isPrefixOf_iff_prefix.1 hp)]

theorem cut?_eq_none_iff {cs : List Char} : cut? mark cs = none ↔ ¬ mark <:+: cs := by
  induction cs with
  | nil => simp [cut?, hm]
  | cons c cs ih =>
    by_cases hp : mark <+: c :: cs
    · obtain ⟨tail, ht⟩ := hp
      simp [← ht, cut?_prefix hm, (List.prefix_append mark tail).isInfix]
    · rw [cut?_cons hp, Option.map_eq_none_iff, ih, List.infix_cons_iff, not_or]
      simp [hp]

theorem dropLast_cons_append (b : Char) (bs : List Char) :
    (b :: bs ++ mark).dropLast = b :: (bs ++ mark).dropLast := by
  rw [List.cons_append, List.dropLast_cons_of_ne_nil (by simp [hm])]

theorem first_of_cut? {cs before rest : List Char} (h : cut? mark cs = some (before, rest)) :
    cs = before ++ mark ++ rest ∧ ¬ mark <:+: (before ++ mark).dropLast := by
  induction cs generalizing before with
  | nil => cases h
  | cons c cs ih =>
    by_cases hp : mark <+: c :: cs
    · obtain ⟨tail, ht⟩ := hp
      rw [← ht, cut?_prefix hm] at h
      cases h
      refine ⟨ht.symm, fun hi => ?_⟩
      have hl := hi.length_le
      have := List.length_pos_iff.2 hm
      rw [List.nil_append, List.length_dropLast] at hl
      omega
    · rw [cut?_cons hp, Option.map_eq_some_iff] at h
      obtain ⟨⟨bs, tail⟩, hcut, heq⟩ := h
      cases heq
      obtain ⟨rfl, hfirst⟩ := ih hcut
      refine ⟨rfl, fun hi => ?_⟩
      rw [dropLast_cons_append hm, List.infix_cons_iff] at hi
      have hshort : (bs ++ mark).dropLast <+: bs ++ mark ++ tail :=
        (List.dropLast_prefix _).trans (List.prefix_append _ _)
      rcases hi with hi | hi
      · exact hp (hi.trans ((List.prefix_cons_inj c).2 hshort))
      · exact hfirst hi

theorem cut?_of_first {before : List Char} (rest : List Char)
    (hfirst : ¬ mark <:+: (before ++ mark).dropLast) :
    cut? mark (before ++ mark ++ rest) = some (before, rest) := by
  induction before with
  | nil => exact cut?_prefix hm rest
  | cons b bs ih =>
    rw [dropLast_cons_append hm, List.infix_cons_iff, not_or] at hfirst
    have hshort : b :: (bs ++ mark).dropLast <+: b :: (bs ++ mark ++ rest) :=
      (List.prefix_cons_inj b).2 ((List.dropLast_prefix _).trans (List.prefix_append _ _))
    have hlong : mark.length ≤ (b :: (bs ++ mark).dropLast).length := by
      simp only [List.length_cons, List.length_dropLast, List.length_append]
      omega
    have hp : ¬ mark <+: b :: (bs ++ mark ++ rest) := fun hp =>
      hfirst.1 (List.prefix_of_prefix_length_le hp hshort hlong)
    rw [List.cons_append, List.cons_append, cut?_cons hp, ih hfirst.2]
    rfl

/-- A text is cut where the mark stands for the first time: it stands in no shorter beginning. -/
theorem cut?_eq_some_iff {cs before rest : List Char} :
    cut? mark cs = some (before, rest) ↔
      cs = before ++ mark ++ rest ∧ ¬ mark <:+: (before ++ mark).dropLast := by
  refine ⟨first_of_cut? hm, ?_⟩
  rintro ⟨rfl, hfirst⟩
  exact cut?_of_first hm rest hfirst

/-- What stands behind the first place of a mark does not move it. -/
theorem cut?_append_of_some {cs before rest : List Char} (h : cut? mark cs = some (before, rest))
    (more : List Char) : cut? mark (cs ++ more) = some (before, rest ++ more) := by
  obtain ⟨rfl, hfirst⟩ := first_of_cut? hm h
  rw [List.append_assoc]
  exact cut?_of_first hm (rest ++ more) hfirst

end Cut

/-- Behind a text without a mark of two characters, and that does not end with the first of them,
the mark stands where it does in what follows. -/
theorem cut?_append_of_none {x y : Char} {cs : List Char} (h : cut? [x, y] cs = none)
    (hlast : cs.getLast? ≠ some x) (more : List Char) :
    cut? [x, y] (cs ++ more) =
      (cut? [x, y] more).map fun parts => (cs ++ parts.1, parts.2) := by
  induction cs with
  | nil => simp
  | cons c cs ih =>
    rw [cut?] at h
    split at h
    · cases h
    · rename_i hp
      have hp' : ¬ [x, y].isPrefixOf (c :: (cs ++ more)) = true := by
        cases cs with
        | nil =>
          have hne : x ≠ c := fun he => hlast (by rw [he]; rfl)
          simp [List.isPrefixOf, hne]
        | cons d ds => simpa [List.isPrefixOf] using hp
      have hlast' : cs.getLast? ≠ some x := by
        cases cs with
        | nil => simp
        | cons d ds => rwa [List.getLast?_cons_cons] at hlast
      rw [List.cons_append, cut?, if_neg hp', ih (Option.map_eq_none_iff.1 h) hlast', Option.map_map]
      rfl

end BrickPipeline.Text
