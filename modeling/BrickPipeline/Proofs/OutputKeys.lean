import BrickPipeline.Proofs.BarePaths
import BrickPipeline.Proofs.Interpolation

/-!
Output keys that the lint lets pass. What is bound under one can be read in every way that documents
have: along a path, as a bare text, and from a template.
-/
namespace BrickPipeline

/-- Blanks around a text that has none are trimmed. -/
theorem Text.trim_spaced {cs : List Char} (hne : cs ≠ []) (h : ∀ c ∈ cs, isBlank c = false) :
    trim (' ' :: (cs ++ [' '])) = cs := by
  obtain ⟨c, rest, rfl⟩ := List.exists_cons_of_ne_nil hne
  have hhead : ∀ d ∈ (c :: rest ++ [' ']).head?, isBlank d = false := by
    rintro d hd
    cases hd
    exact h c List.mem_cons_self
  rw [trim, List.dropWhile_cons_of_pos rfl, dropWhile_of_head hhead]
  exact dropEndWhile_append h (List.forall_mem_singleton.2 rfl)

namespace Template

/-! A tag around a path. -/

theorem piecesOf_next (template : String) (remaining : List Char) : piecesOf template remaining =
    match next remaining with
    | .text => .ok [.text remaining]
    | .unclosed => .error (.unclosed template)
    | .tag before triple body rest => do
      let piece ← readTag triple body
      return .text before :: piece :: (← piecesOf template rest) := by
  rw [piecesOf]
  split <;> rename_i h <;> rw [h]

/-- Text without closing braces is the content of a tag, unless it starts with an opening one. -/
theorem enclosed_of_notMem {body : List Char} (hclose : '}' ∉ body) (hopen : body.head? ≠ some '{')
    (triple : Bool) : Enclosed triple body where
  first := by
    intro h
    have hbody : body.count '}' = 0 := List.count_eq_zero.2 hclose
    have hcount := h.sublist.count_le '}'
    rw [List.dropLast_append_of_ne_nil (closing_ne_nil triple), List.count_append, hbody] at hcount
    cases triple <;> simp [closing] at hcount
  double _ := hopen

theorem openTag_of_head? {cs : List Char} (h : cs.head? ≠ some '{') :
    openTag cs = (false, cs) := by
  unfold openTag
  split
  · exact absurd rfl h
  · rfl

/-- A tag at the start of a text is what comes next in it. -/
theorem next_tagSource {triple : Bool} {body : List Char} (h : Enclosed triple body)
    (rest : List Char) : next (tagSource triple body ++ rest) = .tag [] triple body rest := by
  have hclose : Text.cut? (closing triple) (body ++ closing triple ++ rest) = some (body, rest) :=
    Text.cut?_of_first (closing_ne_nil triple) rest h.first
  have hopen (afterOpen : List Char) :
      Text.cut? (opening false) (opening false ++ afterOpen) = some ([], afterOpen) :=
    Text.cut?_prefix (opening_ne_nil false) afterOpen
  cases triple with
  | true =>
    refine next_eq_tag_iff.2 ⟨'{' :: (body ++ closing true ++ rest), _, ?_, rfl, hclose⟩
    simpa [tagSource, opening] using hopen ('{' :: (body ++ closing true ++ rest))
  | false =>
    have hhead : (body ++ closing false ++ rest).head? ≠ some '{' := by
      cases body with
      | nil => simp [closing]
      | cons c cs => exact h.double rfl
    refine next_eq_tag_iff.2 ⟨body ++ closing false ++ rest, _, ?_, openTag_of_head? hhead, hclose⟩
    simpa [tagSource] using hopen (body ++ closing false ++ rest)

/-- The template that is one tag around a path, with a blank on either side. -/
def tagOf (triple : Bool) (path : String) : String :=
  String.ofList (opening triple) ++ " " ++ path ++ " " ++ String.ofList (closing triple)

/-- The content of that tag. -/
def spaced (path : String) : List Char := ' ' :: (path.toList ++ [' '])

theorem toList_tagOf (triple : Bool) (path : String) :
    (tagOf triple path).toList = tagSource triple (spaced path) := by
  simp [tagOf, tagSource, spaced]

end Template

namespace Path.Bare

open Template

variable {key : String}

theorem notMem_of_not_isKeyChar (bare : Bare key) {c : Char} (h : isKeyChar c = false) :
    c ∉ key.toList := by
  intro hm
  rw [bare.keyChar c hm] at h
  cases h

theorem isTagPath (bare : Bare key) : Template.isTagPath key.toList = true := by
  obtain ⟨first, rest, hkey, hfirst⟩ := bare.starts
  have hchars := bare.keyChar
  rw [hkey] at hchars ⊢
  rw [Template.isTagPath, hfirst, Bool.true_and, List.all_eq_true]
  intro c hm
  simp [isTagChar, hchars c (List.mem_cons_of_mem _ hm)]

/-- A bare path in a tag is what the tag looks up. -/
theorem readTag_spaced (bare : Bare key) (triple : Bool) :
    readTag triple (spaced key) = .ok (.lookup triple (spaced key) key) := by
  obtain ⟨first, rest, hkey, hfirst⟩ := bare.starts
  have hne (c : Char) (h : isHeadStart c = false) : first ≠ c := by
    rintro rfl
    rw [hfirst] at h
    cases h
  have htrim : Text.trim (spaced key) = key.toList :=
    Text.trim_spaced (by simp [hkey]) fun c hm => (isPlain_iff.1 (bare.plain c hm)).2.2.2
  have hcomment : key.toList.head? ≠ some '!' := by
    simpa [hkey] using hne '!' (by decide)
  have hsection : key.toList.head?.any opensSection = false := by
    simp [hkey, opensSection, hne '#' (by decide), hne '^' (by decide), hne '/' (by decide),
      hne '>' (by decide)]
  have hfilter : key.toList.contains '|' = false := by
    simpa using bare.notMem_of_not_isKeyChar (c := '|') (by decide)
  have hpath : tagPath key.toList = key.toList := by
    unfold tagPath
    split
    · rename_i tail ht
      exact absurd (List.cons.inj (hkey.symm.trans ht)).1 (hne '&' (by decide))
    · rfl
  dsimp only [readTag]
  rw [htrim, if_neg hcomment, hsection, hfilter, hpath, bare.isTagPath]
  simp

/-- So a template of one such tag is read, and renders to the text of what is visible there. -/
theorem parse_tagOf (bare : Bare key) (triple : Bool) : Template.parse (tagOf triple key) =
    .ok [.text [], .lookup triple (spaced key) key, .text []] := by
  have hnot (c : Char) (h : isKeyChar c = false) (hblank : c ≠ ' ') : c ∉ spaced key := by
    simp [spaced, bare.notMem_of_not_isKeyChar h, hblank]
  have hblock : hasBlockTag (tagSource triple (spaced key)) = false := by
    have hpercent : '%' ∉ tagSource triple (spaced key) := by
      cases triple <;> simp [tagSource, opening, closing, hnot '%' (by decide) (by decide)]
    have hinfix : ¬ ['{', '%'] <:+: tagSource triple (spaced key) := fun h =>
      hpercent (h.subset (by simp))
    rw [hasBlockTag, (Text.cut?_eq_none_iff (by simp)).2 hinfix]
    rfl
  have hnext : next (tagSource triple (spaced key)) = .tag [] triple (spaced key) [] := by
    have henclosed : Enclosed triple (spaced key) :=
      enclosed_of_notMem (hnot '}' (by decide) (by decide)) (by simp [spaced]) triple
    simpa using next_tagSource henclosed []
  have hlast : piecesOf (tagOf triple key) [] = .ok [.text []] := piecesOf_next _ _
  rw [parse, toList_tagOf, hblock, if_neg Bool.false_ne_true, piecesOf_next, hnext]
  dsimp only
  rw [bare.readTag_spaced triple, hlast]
  rfl

theorem render_tagOf (bare : Bare key) (triple : Bool) (engine : Engine)
    (bindings : Entries Json) : Renderers.standard.render engine (tagOf triple key) bindings =
      .ok (((getVisible? bindings key).map Json.displayText).getD "") := by
  rw [Renderers.render_standard, interpolate_eq_parse, bare.parse_tagOf triple]
  simp [Except.map, Except.mapError, renderPieces, Piece.render]

end Path.Bare

/-- What is bound under an output key that the lint lets pass can be read in every way. Look-ups
along its key find the value, and along that key and a field the field of the value; as plain texts
both are looked up and not rendered as templates; the tag around the key, of two braces or of three,
is read as it stands and renders to the text of the value; and all other bindings are what they
were. -/
theorem Context.bindOutput_readable {outputKey : String}
    (accepted : Lint.isOutputKey outputKey = true) (ctx : Context) (value : Json) :
    let key := bindingKey outputKey
    let bound := ctx.bindOutput outputKey value
    (Path.getVisible? bound.bindings key = some value ∧
        Path.get? bound.bindings key = some value) ∧
      (∀ field, Lint.isIdentifier field.toList = true → field ≠ serviceKey →
        Path.getVisible? bound.bindings (key ++ "." ++ field) = value.get? field ∧
          Path.get? bound.bindings (key ++ "." ++ field) = value.get? field) ∧
      (∀ path, (path = key ∨ ∃ field, Lint.isIdentifier field.toList = true ∧
          path = key ++ "." ++ field) →
        Path.isSimple path bound.bindings = true ∧
          ∀ renderers engine, Render.literal renderers engine (.string path) bound =
            .ok (Path.getService bound.bindings path)) ∧
      (∀ triple engine,
        Template.parse (Template.tagOf triple key) =
            .ok [.text [], .lookup triple (Template.spaced key) key, .text []] ∧
          Renderers.standard.render engine (Template.tagOf triple key) bound.bindings =
            .ok value.displayText) ∧
      ∀ other, other ≠ key → bound.get? other = ctx.get? other := by
  intro key bound
  have bare : Path.Bare key := .bindingKey accepted
  have hbound : Entries.get? key bound.bindings = some value := ctx.get?_bind_self key value
  have hfound (visibleOnly : Bool) :
      Path.resolve visibleOnly bound.bindings (Path.segments key) = some value :=
    (bare.resolve_one visibleOnly bound.bindings).trans hbound
  have hcontains : Entries.contains key bound.bindings = true := by
    rw [Entries.contains, hbound]
    rfl
  refine ⟨⟨hfound true, hfound false⟩, fun field hfield visible => ?_, fun path hpath => ?_,
    fun triple engine => ⟨bare.parse_tagOf triple, ?_⟩,
    fun other hne => ctx.get?_bind_of_ne hne value⟩
  · have hfields (visibleOnly : Bool) := bare.resolve_field (.of_isIdentifier hfield) visible
      visibleOnly hbound
    exact ⟨hfields true, hfields false⟩
  · have hsimple : Path.isSimple path bound.bindings = true := by
      rcases hpath with rfl | ⟨field, hfield, rfl⟩
      · exact (bare.isSimple_one bound.bindings).trans hcontains
      · exact (bare.isSimple_two (.of_isIdentifier hfield) bound.bindings).trans hcontains
    exact ⟨hsimple, fun renderers engine => if_pos hsimple⟩
  · have hvisible : Path.getVisible? bound.bindings key = some value := hfound true
    rw [bare.render_tagOf, hvisible]
    rfl

theorem Context.bindOutput_readable_sample :
    let bound := (Context.initial .null (.object [])).bindOutput "row_1"
      (.object [("name", .string "Ada")])
    Lint.isOutputKey "row_1" = true ∧ Lint.isIdentifier "name".toList = true ∧
      Path.getVisible? bound.bindings "@row_1.name" = some (.string "Ada") ∧
      Render.literal .standard .mustache (.string "@row_1.name") bound = .ok (.string "Ada") ∧
      Renderers.standard.render .mustache "\x7b\x7b @row_1 \x7d\x7d" bound.bindings =
        .ok "\x7b\"name\":\"Ada\"\x7d" ∧
      bound.get? inputKey = some .null := by
  intro bound
  have accepted : Lint.isOutputKey "row_1" = true := by decide
  have hfield : Lint.isIdentifier "name".toList = true := by decide
  obtain ⟨-, hfields, hbare, htags, hothers⟩ := Context.bindOutput_readable accepted
    (Context.initial .null (.object [])) (.object [("name", .string "Ada")])
  refine ⟨accepted, hfield, (hfields "name" hfield (by decide)).1, ?_, ?_, ?_⟩
  · exact (hbare "@row_1.name" (.inr ⟨"name", hfield, rfl⟩)).2 .standard .mustache
  · exact (htags false .mustache).2
  · exact hothers inputKey (by decide)

end BrickPipeline
