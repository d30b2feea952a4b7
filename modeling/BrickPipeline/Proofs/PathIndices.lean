import BrickPipeline.Proofs.PathGrammar

/-!
Indices behind a path. A lookup goes on from where the path before leads: into the element at the
index that a bracket holds, or to what is under a key behind a dot. A bracket that holds no index
is passed over, so it leads to the whole array, where the same text behind a dot leads nowhere.
-/
namespace BrickPipeline.Path

/-! A lookup goes on behind a path from where the path leads. -/

theorem atPositions_append (value : Json) (first second : List Nat) :
    atPositions value (first ++ second) =
      (atPositions value first).bind (atPositions · second) := by
  simp only [atPositions_eq, List.map_append, walk_append]

theorem follow_append (visibleOnly : Bool) (value : Json) (first second : List Segment) :
    follow visibleOnly value (first ++ second) =
      (follow visibleOnly value first).bind (follow visibleOnly · second) := by
  induction first generalizing value with
  | nil => rfl
  | cons segment rest ih =>
    rw [List.cons_append, follow, follow, funext ih]
    cases step visibleOnly value segment <;> rfl

theorem resolve_append (visibleOnly : Bool) (bindings : Entries Json) {first : List Segment}
    (h : first ≠ []) (second : List Segment) :
    resolve visibleOnly bindings (first ++ second) =
      (resolve visibleOnly bindings first).bind (follow visibleOnly · second) := by
  obtain ⟨head, rest, rfl⟩ := List.exists_cons_of_ne_nil h
  rw [List.cons_append, resolve_cons, resolve_cons]
  cases Entries.get? head.key bindings with
  | none => rfl
  | some value =>
    dsimp only [Option.bind_some]
    cases atPositions value head.positions with
    | none => rfl
    | some next => exact follow_append visibleOnly next rest second

/-- The segment with more positions behind its own. -/
def Segment.extend (segment : Segment) (more : List Nat) : Segment :=
  ⟨segment.key, segment.positions ++ more⟩

theorem step_extend (visibleOnly : Bool) (value : Json) (segment : Segment) (more : List Nat) :
    step visibleOnly value (segment.extend more) =
      (step visibleOnly value segment).bind (atPositions · more) := by
  unfold step Segment.extend
  dsimp only
  by_cases hhidden : (visibleOnly && segment.key == serviceKey) = true
  · rw [if_pos hhidden, if_pos hhidden, Option.bind_none]
  · rw [if_neg hhidden, if_neg hhidden]
    by_cases hempty : segment.key.isEmpty = true
    · rw [if_pos hempty, if_pos hempty]
      exact atPositions_append value segment.positions more
    · rw [if_neg hempty, if_neg hempty]
      cases atKey value segment.key with
      | none => rfl
      | some next => exact atPositions_append next segment.positions more

theorem resolve_extend (visibleOnly : Bool) (bindings : Entries Json) (init : List Segment)
    (segment : Segment) (more : List Nat) :
    resolve visibleOnly bindings (init ++ [segment.extend more]) =
      (resolve visibleOnly bindings (init ++ [segment])).bind (atPositions · more) := by
  cases init with
  | nil =>
    simp only [List.nil_append, resolve_cons, Segment.extend]
    cases Entries.get? segment.key bindings with
    | none => rfl
    | some value =>
      simp only [Option.bind_some, atPositions_append, follow, Option.bind_fun_some]
  | cons head rest =>
    have hne : head :: rest ≠ [] := List.cons_ne_nil _ _
    rw [resolve_append visibleOnly bindings hne, resolve_append visibleOnly bindings hne]
    cases resolve visibleOnly bindings (head :: rest) with
    | none => rfl
    | some value =>
      have hlast (segment : Segment) :
          follow visibleOnly value [segment] = step visibleOnly value segment := by
        rw [follow]
        cases step visibleOnly value segment <;> rfl
      simp only [Option.bind_some, hlast]
      exact step_extend visibleOnly value segment more

/-! What a text behind a path adds to its segments. -/

theorem takeWhile_append_bracket (cs part : List Char) :
    (cs ++ '[' :: part).takeWhile (· != '[') = cs.takeWhile (· != '[') := by
  induction cs with
  | nil => rfl
  | cons c cs ih => rw [List.cons_append, List.takeWhile_cons, List.takeWhile_cons, ih]

theorem dropWhile_append_bracket (cs part : List Char) :
    (cs ++ '[' :: part).dropWhile (· != '[') = cs.dropWhile (· != '[') ++ '[' :: part := by
  induction cs with
  | nil => rfl
  | cons c cs ih =>
    rw [List.cons_append, List.dropWhile_cons, List.dropWhile_cons, ih]
    split <;> rfl

/-- A text without brackets is all key. -/
theorem split_of_notMem {cs : List Char} (h : '[' ∉ cs) :
    cs.takeWhile (· != '[') = cs ∧ cs.dropWhile (· != '[') = [] := by
  have hkey (c) (hc : c ∈ cs) : (c != '[') = true := by
    rw [bne_iff_ne]
    rintro rfl
    exact h hc
  have htake : (cs ++ []).takeWhile (· != '[') = cs ++ [] := List.takeWhile_append_of_pos hkey
  have hdrop : (cs ++ []).dropWhile (· != '[') = [] := List.dropWhile_append_of_pos hkey
  rw [List.append_nil] at htake hdrop
  exact ⟨htake, hdrop⟩

theorem ofChars_of_getLast {cs : List Char} (h : ∀ c ∈ cs.getLast?, c ≠ '?') :
    Segment.ofChars cs =
      ⟨String.ofList (cs.takeWhile (· != '[')), positions (cs.dropWhile (· != '['))⟩ := by
  have hcs : Text.dropEndWhile (· == '?') cs = cs :=
    Text.dropEndWhile_of_getLast fun c hc => beq_eq_false_iff_ne.2 (h c hc)
  unfold Segment.ofChars
  rw [hcs]

theorem getLast?_append_bracket (cs text : List Char) :
    (cs ++ '[' :: (text ++ [']'])).getLast? = some ']' := by
  have hassoc : cs ++ '[' :: (text ++ [']']) = cs ++ '[' :: text ++ [']'] := by simp
  rw [hassoc, List.getLast?_concat]

/-- A bracket adds what it holds to the positions of the segment that it stands behind. -/
theorem ofChars_append_bracket {cs : List Char} (h : ∀ c ∈ cs.getLast?, c ≠ '?')
    (text : List Char) :
    Segment.ofChars (cs ++ '[' :: (text ++ [']'])) =
      (Segment.ofChars cs).extend (positions ('[' :: (text ++ [']']))) := by
  have hall : ∀ c ∈ (cs ++ '[' :: (text ++ [']'])).getLast?, c ≠ '?' := by
    intro c hc
    rw [getLast?_append_bracket] at hc
    exact Option.mem_some.1 hc ▸ by decide
  rw [ofChars_of_getLast h, ofChars_of_getLast hall, takeWhile_append_bracket,
    dropWhile_append_bracket, positions_append]
  rfl

/-- Whether more can stand behind a path: it ends neither in a blank nor in a marker. -/
def Closed (path : String) : Prop :=
  ∀ c ∈ path.toList.getLast?, Text.isBlank c = false ∧ c ≠ '?'

section

variable {path : String}

theorem exists_getLast (closed : Closed path) (hne : segments path ≠ []) :
    ∃ c, path.toList.getLast? = some c ∧ Text.isBlank c = false := by
  cases hlast : path.toList.getLast? with
  | none =>
    rw [List.getLast?_eq_none_iff] at hlast
    exact absurd (by rw [segments, hlast]; rfl) hne
  | some c => exact ⟨c, rfl, (closed c hlast).1⟩

/-- A bracket behind a path extends its last segment, or stands by itself behind a dot. -/
theorem segments_bracket (closed : Closed path) (hne : segments path ≠ []) {text : String}
    (hdot : '.' ∉ text.toList) :
    ∃ init segment,
      (segments path = init ++ [segment] ∨ segments path = init ∧ segment = ⟨"", []⟩) ∧
      segments (path ++ "[" ++ text ++ "]") =
        init ++ [segment.extend (positions ('[' :: (text.toList ++ [']'])))] := by
  obtain ⟨c, hc, hblank⟩ := exists_getLast closed hne
  have htext : (path ++ "[" ++ text ++ "]").toList =
      path.toList ++ '[' :: (text.toList ++ [']']) := by
    simp
  have htrim : Text.trim (path ++ "[" ++ text ++ "]").toList =
      Text.trim path.toList ++ '[' :: (text.toList ++ [']']) := by
    rw [htext]
    refine Text.trim_append hc hblank fun d hd => ?_
    have hd' := getLast?_append_bracket [] text.toList
    rw [List.nil_append] at hd'
    rw [hd'] at hd
    exact Option.mem_some.1 hd ▸ rfl
  have hdot' : '.' ∉ '[' :: (text.toList ++ [']']) := by simpa using hdot
  obtain ⟨pieces, last, hpath, hall⟩ :=
    Text.splitOn_append_of_notMem hdot' (Text.trim path.toList)
  -- The last piece ends as the path does, so it ends in no marker.
  have hlast : ∀ d ∈ last.getLast?, d ≠ '?' := by
    have hsuffix : last <:+ path.toList := by
      have hjoined := Text.suffix_intercalate '.' pieces last
      rw [← hpath, Text.intercalate_splitOn,
        Text.trim_of_getLast fun d hd => (closed d hd).1] at hjoined
      exact hjoined.trans (List.dropWhile_suffix _)
    exact fun d hd => (closed d (Text.mem_getLast?_of_suffix hsuffix hd)).2
  refine ⟨(pieces.filter (!·.isEmpty)).map Segment.ofChars, Segment.ofChars last, ?_, ?_⟩
  · rw [segments, hpath, List.filter_append, List.map_append]
    cases last with
    | nil => exact Or.inr ⟨by simp, rfl⟩
    | cons d ds => exact Or.inl rfl
  · have hfilled : [last ++ '[' :: (text.toList ++ [']'])].filter (!·.isEmpty) =
        [last ++ '[' :: (text.toList ++ [']'])] := by
      simp
    rw [segments, htrim, hall, List.filter_append, hfilled, List.map_append, List.map_singleton,
      ofChars_append_bracket hlast]

/-- A dot and a key behind a path are one more segment. -/
theorem segments_dotted (closed : Closed path) (hne : segments path ≠ []) {key : String}
    (hkey : key ≠ "") (hdot : '.' ∉ key.toList)
    (hend : ∀ c ∈ key.toList.getLast?, Text.isBlank c = false) :
    segments (path ++ "." ++ key) = segments path ++ [Segment.ofChars key.toList] := by
  obtain ⟨c, hc, hblank⟩ := exists_getLast closed hne
  have hkey' : key.toList ≠ [] := by simpa using hkey
  have htrim : Text.trim (path ++ "." ++ key).toList =
      Text.trim path.toList ++ '.' :: key.toList := by
    have htext : (path ++ "." ++ key).toList = path.toList ++ '.' :: key.toList := by simp
    rw [htext]
    refine Text.trim_append hc hblank fun d hd => hend d ?_
    obtain ⟨k, ks, hks⟩ := List.exists_cons_of_ne_nil hkey'
    rw [hks, List.getLast?_cons_cons] at hd
    rw [hks]
    exact hd
  have hfilled : [key.toList].filter (!·.isEmpty) = [key.toList] := by simp [hkey]
  rw [segments, segments, htrim, Text.splitOn_append_separator, Text.splitOn_of_notMem hdot,
    List.filter_append, hfilled, List.map_append, List.map_singleton]

end

theorem segments_ne_nil {bindings : Entries Json} {path : String} {value : Json}
    (found : get? bindings path = some value) : segments path ≠ [] := by
  intro hnil
  rw [get?, hnil] at found
  cases found

section

variable {bindings : Entries Json} {path : String} {value : Json} (closed : Closed path)
  (found : get? bindings path = some value)

include closed found

/-- A bracket leads on from where the path before it leads. -/
theorem get?_append_bracket {text : String} (hdot : '.' ∉ text.toList)
    (hopen : '[' ∉ text.toList) :
    get? bindings (path ++ "[" ++ text ++ "]") =
      atPositions value (Text.parseIndex? (Text.trim text.toList)).toList := by
  obtain ⟨init, segment, hpath, hall⟩ := segments_bracket closed (segments_ne_nil found) hdot
  rw [positions_bracket hopen] at hall
  have hfound : resolve false bindings (init ++ [segment]) = some value := by
    rcases hpath with hpath | ⟨hpath, rfl⟩
    · rw [← hpath]
      exact found
    · have hne : init ≠ [] := hpath ▸ segments_ne_nil found
      rw [resolve_append false bindings hne, ← hpath]
      change (get? bindings path).bind _ = _
      rw [found]
      rfl
  rw [get?, hall, resolve_extend, hfound, Option.bind_some]

/-- A key behind a dot leads on from where the path before it leads. -/
theorem get?_append_dotted {key : String} (hkey : key ≠ "") (hdot : '.' ∉ key.toList)
    (hend : ∀ c ∈ key.toList.getLast?, Text.isBlank c = false) :
    get? bindings (path ++ "." ++ key) =
      step false value (Segment.ofChars key.toList) := by
  have hne := segments_ne_nil found
  have hfound : resolve false bindings (segments path) = some value := found
  rw [get?, segments_dotted closed hne hkey hdot hend, resolve_append false bindings hne, hfound,
    Option.bind_some, follow]
  cases step false value (Segment.ofChars key.toList) <;> rfl

end

/-! What a text behind a path to an array leads to. -/

/-- Whether a text is a numeral, perhaps with a plus sign before it. -/
def Numeral.Reads (numeral : Numeral) (cs : List Char) : Prop :=
  cs = numeral.digits ∨ cs = '+' :: numeral.digits

theorem Numeral.parseIndex?_eq {numeral : Numeral} {cs : List Char} (h : numeral.Reads cs) :
    Text.parseIndex? cs = some numeral.value := by
  rcases h with rfl | rfl
  · exact Text.parseIndex?_of_isDigit numeral.digits_ne_nil numeral.decimal numeral.bounded
  · have hbound := numeral.bounded
    simp [Text.parseIndex?, numeral.digits_ne_nil, numeral.decimal, hbound, Numeral.value]

theorem exists_reads_of_parseIndex? {cs : List Char} {n : Nat}
    (h : Text.parseIndex? cs = some n) : ∃ numeral : Numeral, numeral.Reads cs := by
  obtain ⟨digits, hcs, hdigits⟩ : ∃ digits, (cs = digits ∨ cs = '+' :: digits) ∧
      (if digits.isEmpty || !digits.all Char.isDigit then none
        else if Text.digitsValue digits < Text.indexBound then some (Text.digitsValue digits)
        else none) = some n := by
    unfold Text.parseIndex? at h
    dsimp only at h
    split at h
    · rename_i rest
      exact ⟨rest, Or.inr rfl, h⟩
    · exact ⟨cs, Or.inl rfl, h⟩
  split at hdigits
  · cases hdigits
  · rename_i hread
    split at hdigits
    · rename_i hbound
      rw [Bool.or_eq_true, not_or] at hread
      have hne : digits ≠ [] := by simpa using hread.1
      have hall : digits.all Char.isDigit = true := by
        simpa only [Bool.not_eq_true', Bool.not_eq_false] using hread.2
      exact ⟨⟨digits, hne, hall, hbound⟩, hcs⟩
    · cases hdigits

/-- A text of digits is read as an index exactly if it is below the bound. -/
theorem parseIndex?_of_digits {digits : List Char} (hne : digits ≠ [])
    (hall : digits.all Char.isDigit = true) :
    Text.parseIndex? digits =
      if Text.digitsValue digits < Text.indexBound then some (Text.digitsValue digits)
      else none := by
  by_cases hbound : Text.digitsValue digits < Text.indexBound
  · rw [if_pos hbound, Text.parseIndex?_of_isDigit hne hall hbound]
  · rw [if_neg hbound]
    refine Option.eq_none_iff_forall_ne_some.2 fun n hn => ?_
    obtain ⟨numeral, rfl | rfl⟩ := exists_reads_of_parseIndex? hn
    · exact hbound numeral.bounded
    · exact absurd (List.all_eq_true.1 hall '+' List.mem_cons_self) (by decide)

/-- A text of digits behind a dot is a key without positions. -/
theorem ofChars_of_digits {digits : List Char} (hall : ∀ c ∈ digits, c.isDigit = true) :
    Segment.ofChars digits = ⟨String.ofList digits, []⟩ := by
  have hne (d : Char) (hd : d.isDigit = false) : d ∉ digits := by
    intro hm
    rw [hall d hm] at hd
    cases hd
  have hend : ∀ c ∈ digits.getLast?, c ≠ '?' := by
    rintro c hc rfl
    exact hne '?' rfl (List.mem_of_getLast? hc)
  obtain ⟨htake, hdrop⟩ := split_of_notMem (hne '[' rfl)
  rw [ofChars_of_getLast hend, htake, hdrop]
  rfl

/-- Behind a path to an array, a bracket leads to the element at the index that it holds. A bracket
that holds none, as one that is negative or not below `Text.indexBound`, is passed over: it leads
to the whole array. Behind a dot, digits lead to the element, and nowhere if they are not below
the bound. -/
theorem get?_bracket {bindings : Entries Json} {path : String} {items : List Json}
    (closed : Closed path) (found : get? bindings path = some (.array items)) (text : String)
    (hdot : '.' ∉ text.toList) (hopen : '[' ∉ text.toList) :
    (∀ numeral : Numeral, numeral.Reads (Text.trim text.toList) →
      get? bindings (path ++ "[" ++ text ++ "]") = items[numeral.value]?) ∧
    ((¬ ∃ numeral : Numeral, numeral.Reads (Text.trim text.toList)) →
      get? bindings (path ++ "[" ++ text ++ "]") = some (.array items)) ∧
    (text ≠ "" → text.toList.all Char.isDigit = true →
      get? bindings (path ++ "." ++ text) =
        if Text.digitsValue text.toList < Text.indexBound then
          items[Text.digitsValue text.toList]?
        else none) := by
  have hbracket := get?_append_bracket closed found hdot hopen
  refine ⟨?_, ?_, ?_⟩
  · intro numeral hreads
    rw [hbracket, Numeral.parseIndex?_eq hreads, Option.toList_some, atPositions]
    exact Option.bind_fun_some items[numeral.value]?
  · intro hnone
    have hread : Text.parseIndex? (Text.trim text.toList) = none :=
      Option.eq_none_iff_forall_ne_some.2 fun n hn => hnone (exists_reads_of_parseIndex? hn)
    rw [hbracket, hread]
    rfl
  · intro hne hall
    have hdigits (c) (hc : c ∈ text.toList) : c.isDigit = true := List.all_eq_true.1 hall c hc
    have hend : ∀ c ∈ text.toList.getLast?, Text.isBlank c = false := by
      intro c hc
      exact (isPlain_iff.1 (isPlain_of_isDigit (hdigits c (List.mem_of_getLast? hc)))).2.2.2
    have hne' : text.toList ≠ [] := by simpa using hne
    rw [get?_append_dotted closed found hne hdot hend, ofChars_of_digits hdigits,
      String.ofList_toList, step_eq (.array items) hne]
    change ((Text.parseIndex? text.toList).bind (items[·]?)).bind some = _
    rw [Option.bind_fun_some, parseIndex?_of_digits hne' hall]
    split <;> rfl

namespace Sample

/-- Two rows under one name. -/
def rows : Entries Json := [("rows", .array [.nat 10, .nat 20])]

def one : Numeral := ⟨['1'], by decide, by decide, by decide⟩

theorem closed_rows : Closed "rows" := by
  intro c hc
  have hs : c = 's' := (Option.mem_some.1 hc).symm
  subst hs
  decide

theorem not_reads_negative (numeral : Numeral) :
    ¬ numeral.Reads (Text.trim "-1".toList) := by
  have htrim : Text.trim "-1".toList = ['-', '1'] := by decide +kernel
  rw [htrim]
  rintro (h | h)
  · exact absurd (numeral.isDigit (h ▸ List.mem_cons_self)) (by decide)
  · cases h

end Sample

theorem get?_bracket_sample :
    Closed "rows" ∧ get? Sample.rows "rows" = some (.array [.nat 10, .nat 20]) ∧
      Sample.one.Reads (Text.trim " 1 ".toList) ∧
      get? Sample.rows ("rows" ++ "[" ++ " 1 " ++ "]") = some (.nat 20) ∧
      (¬ ∃ numeral : Numeral, numeral.Reads (Text.trim "-1".toList)) ∧
      get? Sample.rows ("rows" ++ "[" ++ "-1" ++ "]") = some (.array [.nat 10, .nat 20]) ∧
      get? Sample.rows ("rows" ++ "." ++ "1") = some (.nat 20) := by
  have found : get? Sample.rows "rows" = some (.array [.nat 10, .nat 20]) := rfl
  have hreads : Sample.one.Reads (Text.trim " 1 ".toList) := Or.inl (by decide +kernel)
  have hnone : ¬ ∃ numeral : Numeral, numeral.Reads (Text.trim "-1".toList) :=
    fun ⟨numeral, h⟩ => Sample.not_reads_negative numeral h
  obtain ⟨hindex, -, -⟩ := get?_bracket Sample.closed_rows found " 1 " (by decide) (by decide)
  obtain ⟨-, hpassed, -⟩ := get?_bracket Sample.closed_rows found "-1" (by decide) (by decide)
  obtain ⟨-, -, hdotted⟩ := get?_bracket Sample.closed_rows found "1" (by decide) (by decide)
  exact ⟨Sample.closed_rows, found, hreads, hindex Sample.one hreads, hnone, hpassed hnone,
    hdotted (by decide) (by decide)⟩

/-- A bracket that holds a negative number, or a numeral that no index can be, leads to the whole
array, where the same text behind a dot leads nowhere. -/
theorem exists_bracket_passed_over :
    ∃ (bindings : Entries Json) (items : List Json),
      get? bindings "rows" = some (.array items) ∧
      get? bindings "rows[-1]" = some (.array items) ∧ get? bindings "rows.-1" = none ∧
      get? bindings "rows[18446744073709551616]" = some (.array items) ∧
      get? bindings "rows.18446744073709551616" = none :=
  ⟨Sample.rows, [.nat 10, .nat 20], rfl, rfl, rfl, rfl, rfl⟩

end BrickPipeline.Path
