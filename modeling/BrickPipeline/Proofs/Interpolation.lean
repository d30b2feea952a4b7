import BrickPipeline.Scope.Template
import BrickPipeline.Proofs.Codec
import Mathlib.Data.List.Chain

/-!
Templates as lists of pieces. The pieces of a template are read from its text alone; rendering in
one pass comes to rendering them one by one, so no value is ever searched for tags, and a template
that is closed at its end renders apart from what follows it.
-/
namespace BrickPipeline

namespace Template

/-- A part of a template: plain text, or a tag that is a comment or names a path. -/
inductive Piece where
  | text (chars : List Char)
  | comment (triple : Bool) (body : List Char)
  | lookup (triple : Bool) (body : List Char) (path : String)
deriving DecidableEq

/-- A tag as it is written around its content. -/
def tagSource (triple : Bool) (body : List Char) : List Char :=
  opening triple ++ body ++ closing triple

/-- The characters of the template that a piece was read from. -/
def Piece.source : Piece → List Char
  | .text chars => chars
  | .comment triple body | .lookup triple body _ => tagSource triple body

def Piece.render (bindings : Entries Json) : Piece → String
  | .text chars => String.ofList chars
  | .comment .. => ""
  | .lookup _ _ path => ((Path.getVisible? bindings path).map Json.displayText).getD ""

/-- Put values into pieces, in order. -/
def renderPieces (bindings : Entries Json) (pieces : List Piece) : String :=
  String.join (pieces.map (Piece.render bindings))

/-- A tag ends at its first closing braces, and one of two braces has no third behind them. -/
structure Enclosed (triple : Bool) (body : List Char) : Prop where
  first : ¬ closing triple <:+: (body ++ closing triple).dropLast
  double : triple = false → body.head? ≠ some '{'

/-- Whether the source of a piece says what the piece says. -/
def Piece.Written : Piece → Prop
  | .text chars => ¬ opening false <:+: chars
  | .comment triple body => Enclosed triple body ∧ (Text.trim body).head? = some '!'
  | .lookup triple body path =>
    Enclosed triple body ∧ isTagPath path.toList = true ∧ path.toList = tagPath (Text.trim body)

def Piece.isText : Piece → Bool
  | .text _ => true
  | _ => false

@[simp] theorem Piece.isText_text (chars : List Char) : (text chars).isText = true := rfl

/-- Whether of two neighbours one is text and one a tag. -/
def TakeTurns (pieces : List Piece) : Prop :=
  pieces.IsChain fun first second => first.isText ≠ second.isText

/-- The piece for a tag with the given content. -/
def readTag (triple : Bool) (body : List Char) : Except Fault Piece :=
  let tag := Text.trim body
  if tag.head? = some '!' then .ok (.comment triple body)
  else if tag.head?.any opensSection then .error (.section (String.ofList tag))
  else if tag.contains '|' then .error (.filter (String.ofList tag))
  else if isTagPath (tagPath tag) then .ok (.lookup triple body (String.ofList (tagPath tag)))
  else .error (.unsupported (String.ofList (tagPath tag)))

/-- The pieces of what remains of a template. -/
def piecesOf (template : String) (remaining : List Char) : Except Fault (List Piece) :=
  match _h : next remaining with
  | .text => .ok [.text remaining]
  | .unclosed => .error (.unclosed template)
  | .tag before triple body rest => do
    let piece ← readTag triple body
    return .text before :: piece :: (← piecesOf template rest)
termination_by remaining.length
decreasing_by exact length_lt_of_next ‹_›

/-- The pieces of a template, or the fault that is found in it; no value is looked at. -/
def parse (template : String) : Except Fault (List Piece) :=
  if hasBlockTag template.toList then .error .blockTag
  else piecesOf template template.toList

theorem evaluate_eq (bindings : Entries Json) (triple : Bool) (body : List Char) :
    evaluate bindings (Text.trim body) = (readTag triple body).map (Piece.render bindings) := by
  simp only [evaluate, readTag]
  split
  · rfl
  · split
    · rfl
    · split
      · rfl
      · split <;> rfl

theorem renderPieces_tag (bindings : Entries Json) (before : List Char) (piece : Piece)
    (pieces : List Piece) :
    renderPieces bindings (.text before :: piece :: pieces) =
      String.ofList before ++ piece.render bindings ++ renderPieces bindings pieces := by
  simp only [renderPieces, List.map_cons, String.join_cons, Piece.render, String.append_assoc]

/-- Rendering in one pass is rendering the pieces. -/
theorem fill_eq (template : String) (bindings : Entries Json) (remaining : List Char) :
    fill template bindings remaining =
      (piecesOf template remaining).map (renderPieces bindings) := by
  fun_induction piecesOf template remaining with
  | case1 remaining h =>
    rw [fill_of_text h]
    simp [Except.map, renderPieces, Piece.render]
  | case2 remaining h => exact fill_of_unclosed h
  | case3 remaining before triple body rest h ih =>
    rw [fill_of_tag h, evaluate_eq bindings triple body, ih]
    cases readTag triple body with
    | error fault => rfl
    | ok piece =>
      cases piecesOf template rest with
      | error fault => rfl
      | ok pieces => exact congrArg Except.ok (renderPieces_tag bindings before piece pieces).symm

theorem interpolate_eq_parse (template : String) (bindings : Entries Json) :
    interpolate template bindings = (parse template).map (renderPieces bindings) := by
  unfold interpolate parse
  split
  · rfl
  · exact fill_eq template bindings template.toList

/-! What is read as a piece is written there, and nothing of the template is left out. -/

theorem enclosed_of_next {remaining before body rest : List Char} {triple : Bool}
    (h : next remaining = .tag before triple body rest) : Enclosed triple body := by
  obtain ⟨afterOpen, inner, -, hinner, hclose⟩ := next_eq_tag_iff.1 h
  obtain ⟨hall, hfirst⟩ := (Text.cut?_eq_some_iff (closing_ne_nil triple)).1 hclose
  refine ⟨hfirst, fun htriple hbrace => ?_⟩
  obtain ⟨body, rfl⟩ : ∃ tail, body = '{' :: tail := by
    cases body with
    | nil => cases hbrace
    | cons c tail => exact ⟨tail, by rw [Option.some.inj hbrace]⟩
  subst htriple
  have hopen := opening_append_openTag afterOpen
  rw [hinner, hall] at hopen
  rw [List.append_cancel_left hopen] at hinner
  exact Bool.noConfusion (congrArg Prod.fst hinner)

theorem readTag_cases {triple : Bool} {body : List Char} {piece : Piece}
    (h : readTag triple body = .ok piece) :
    (piece = .comment triple body ∧ (Text.trim body).head? = some '!') ∨
      ∃ path, piece = .lookup triple body path ∧ isTagPath path.toList = true ∧
        path.toList = tagPath (Text.trim body) := by
  simp only [readTag] at h
  split at h
  · rename_i hcomment
    cases h
    exact Or.inl ⟨rfl, hcomment⟩
  · split at h
    · cases h
    · split at h
      · cases h
      · split at h
        · rename_i hpath
          cases h
          exact Or.inr ⟨_, rfl, by rwa [String.toList_ofList], String.toList_ofList⟩
        · cases h

theorem source_piecesOf {template : String} {remaining : List Char} {pieces : List Piece}
    (h : piecesOf template remaining = .ok pieces) : pieces.flatMap Piece.source = remaining := by
  fun_induction piecesOf template remaining generalizing pieces with
  | case1 remaining hnext =>
    cases h
    simp [Piece.source]
  | case2 remaining hnext => cases h
  | case3 remaining before triple body rest hnext ih =>
    obtain ⟨piece, hpiece, h⟩ := Except.ok_of_bind h
    obtain ⟨more, hmore, h⟩ := Except.ok_of_bind h
    cases h
    have hsource : piece.source = tagSource triple body := by
      rcases readTag_cases hpiece with ⟨rfl, -⟩ | ⟨path, rfl, -⟩ <;> rfl
    rw [List.flatMap_cons, List.flatMap_cons, ih hmore, hsource, eq_of_next hnext]
    simp [Piece.source, tagSource]

theorem written_piecesOf {template : String} {remaining : List Char} {pieces : List Piece}
    (h : piecesOf template remaining = .ok pieces) : ∀ piece ∈ pieces, piece.Written := by
  fun_induction piecesOf template remaining generalizing pieces with
  | case1 remaining hnext =>
    cases h
    have hplain := (Text.cut?_eq_none_iff (opening_ne_nil false)).1 (next_eq_text_iff.1 hnext)
    simpa [Piece.Written] using hplain
  | case2 remaining hnext => cases h
  | case3 remaining before triple body rest hnext ih =>
    obtain ⟨piece, hpiece, h⟩ := Except.ok_of_bind h
    obtain ⟨more, hmore, h⟩ := Except.ok_of_bind h
    cases h
    obtain ⟨afterOpen, inner, hopen, -, -⟩ := next_eq_tag_iff.1 hnext
    have hfirst := ((Text.cut?_eq_some_iff (opening_ne_nil false)).1 hopen).2
    have hbefore : (Piece.text before).Written := by
      refine fun hin => hfirst (hin.trans (List.IsPrefix.isInfix ?_))
      rw [List.dropLast_append_of_ne_nil (opening_ne_nil false)]
      exact List.prefix_append _ _
    have htag : piece.Written := by
      rcases readTag_cases hpiece with ⟨rfl, hcomment⟩ | ⟨path, rfl, hpath⟩
      · exact ⟨enclosed_of_next hnext, hcomment⟩
      · exact ⟨enclosed_of_next hnext, hpath⟩
    simp only [List.mem_cons, forall_eq_or_imp]
    exact ⟨hbefore, htag, ih hmore⟩

theorem isText_of_readTag {triple : Bool} {body : List Char} {piece : Piece}
    (h : readTag triple body = .ok piece) : piece.isText = false := by
  rcases readTag_cases h with ⟨rfl, -⟩ | ⟨path, rfl, -⟩ <;> rfl

theorem takeTurns_piecesOf {template : String} {remaining : List Char} {pieces : List Piece}
    (h : piecesOf template remaining = .ok pieces) :
    (∀ piece ∈ pieces.head?, piece.isText = true) ∧ TakeTurns pieces := by
  fun_induction piecesOf template remaining generalizing pieces with
  | case1 remaining hnext =>
    cases h
    exact ⟨by simp, List.isChain_singleton _⟩
  | case2 remaining hnext => cases h
  | case3 remaining before triple body rest hnext ih =>
    obtain ⟨piece, hpiece, h⟩ := Except.ok_of_bind h
    obtain ⟨more, hmore, h⟩ := Except.ok_of_bind h
    cases h
    obtain ⟨hfirst, hturns⟩ := ih hmore
    have htag := isText_of_readTag hpiece
    have hbefore : (Piece.text before).isText ≠ piece.isText := by simp [htag]
    have hafter : ∀ first ∈ more.head?, piece.isText ≠ first.isText := by
      intro first hm
      simp [htag, hfirst first hm]
    refine ⟨by simp, List.isChain_cons_cons.2 ⟨hbefore, ?_⟩⟩
    exact List.isChain_cons.2 ⟨hafter, hturns⟩

/-! Text that a template goes on with does not change the tags before it. -/

/-- The same tag, with more text before it. -/
def Next.behind (text : List Char) : Next → Next
  | .tag before triple body rest => .tag (text ++ before) triple body rest
  | other => other

theorem next_append_of_tag {cs before body rest : List Char} {triple : Bool}
    (h : next cs = .tag before triple body rest) (more : List Char) :
    next (cs ++ more) = .tag before triple body (rest ++ more) := by
  obtain ⟨afterOpen, inner, hopen, hinner, hclose⟩ := next_eq_tag_iff.1 h
  have hinner' : openTag (afterOpen ++ more) = (triple, inner ++ more) := by
    cases afterOpen with
    | nil =>
      cases hinner
      cases hclose
    | cons c cs =>
      unfold openTag at hinner ⊢
      split at hinner <;> cases hinner <;> simp_all
  exact next_eq_tag_iff.2 ⟨afterOpen ++ more, inner ++ more,
    Text.cut?_append_of_some (opening_ne_nil false) hopen more, hinner',
    Text.cut?_append_of_some (closing_ne_nil triple) hclose more⟩

theorem next_append_of_text {cs : List Char} (h : next cs = .text)
    (closed : cs.getLast? ≠ some '{') (more : List Char) :
    next (cs ++ more) = (next more).behind cs := by
  have hcut : Text.cut? (opening false) (cs ++ more) =
      (Text.cut? (opening false) more).map fun parts => (cs ++ parts.1, parts.2) :=
    Text.cut?_append_of_none (next_eq_text_iff.1 h) closed more
  rw [next, next, hcut]
  cases Text.cut? (opening false) more with
  | none => rfl
  | some parts =>
    dsimp only [Option.map_some]
    cases Text.cut? (closing (openTag parts.2).1) (openTag parts.2).2 <;> rfl

/-- A template that is closed at its end renders apart from what follows it. -/
theorem fill_append {template : String} {bindings : Entries Json} {cs : List Char} {text : String}
    (h : fill template bindings cs = .ok text) (closed : cs.getLast? ≠ some '{') (whole : String)
    (more : List Char) :
    fill whole bindings (cs ++ more) = (fill whole bindings more).map (text ++ ·) := by
  fun_induction fill template bindings cs generalizing text with
  | case1 cs hnext =>
    cases h
    have happend := next_append_of_text hnext closed more
    cases hmore : next more with
    | text =>
      rw [hmore] at happend
      rw [fill_of_text happend, fill_of_text hmore, String.ofList_append]
      rfl
    | unclosed =>
      rw [hmore] at happend
      rw [fill_of_unclosed happend, fill_of_unclosed hmore]
      rfl
    | tag before triple body rest =>
      rw [hmore] at happend
      rw [fill_of_tag happend, fill_of_tag hmore, String.ofList_append]
      cases evaluate bindings (Text.trim body) with
      | error fault => rfl
      | ok value =>
        cases fill whole bindings rest with
        | error fault => rfl
        | ok after => exact congrArg Except.ok (by simp only [String.append_assoc])
  | case2 cs hnext => cases h
  | case3 cs before triple body rest hnext ih =>
    obtain ⟨value, hvalue, h⟩ := Except.ok_of_bind h
    obtain ⟨after, hafter, h⟩ := Except.ok_of_bind h
    cases h
    have hrest : rest.getLast? ≠ some '{' := fun hl =>
      closed (by rw [eq_of_next hnext, List.getLast?_append, hl]; rfl)
    rw [fill_of_tag (next_append_of_tag hnext more), hvalue, ih hafter hrest]
    cases fill whole bindings more with
    | error fault => rfl
    | ok last => exact congrArg Except.ok (by simp only [String.append_assoc])

/-- Only the fault of an open tag names the whole template. -/
theorem toOption_fill (template whole : String) (bindings : Entries Json) (cs : List Char) :
    (fill template bindings cs).toOption = (fill whole bindings cs).toOption := by
  fun_induction fill template bindings cs with
  | case1 cs hnext => rw [fill_of_text hnext]
  | case2 cs hnext => rw [fill_of_unclosed hnext]; rfl
  | case3 cs before triple body rest hnext ih =>
    rw [fill_of_tag hnext]
    cases evaluate bindings (Text.trim body) with
    | error fault => rfl
    | ok value =>
      have hmap (result : Except Fault String) :
          (do return String.ofList before ++ value ++ (← result)).toOption =
            result.toOption.map (String.ofList before ++ value ++ ·) := by
        cases result <;> rfl
      exact (hmap _).trans ((congrArg _ ih).trans (hmap _).symm)

theorem hasBlockTag_append {cs : List Char} (h : hasBlockTag cs = false)
    (closed : cs.getLast? ≠ some '{') (more : List Char) :
    hasBlockTag (cs ++ more) = hasBlockTag more := by
  have hnone : Text.cut? ['{', '%'] cs = none := by simpa [hasBlockTag] using h
  rw [hasBlockTag, hasBlockTag, Text.cut?_append_of_none hnone closed, Option.isSome_map]

end Template

namespace Renderers

open Template

theorem render_standard (engine : Engine) (template : String) (bindings : Entries Json) :
    standard.render engine template bindings =
      (interpolate template bindings).mapError (Fault.toError engine) := rfl

theorem toOption_render_standard (engine : Engine) (template : String) (bindings : Entries Json) :
    (standard.render engine template bindings).toOption =
      (interpolate template bindings).toOption := by
  rw [render_standard]
  cases interpolate template bindings <;> rfl

/-- A template has one fault for all bindings, or pieces that are all of its text, plain text and
tags by turns; then it renders to the texts of its pieces, in order. -/
theorem render_pieces (engine : Engine) (template : String) :
    (∃ fault : Fault, ∀ bindings,
      standard.render engine template bindings = .error (fault.toError engine)) ∨
    ∃ pieces : List Piece, pieces.flatMap Piece.source = template.toList ∧
      (∀ piece ∈ pieces, piece.Written) ∧ TakeTurns pieces ∧
      ∀ bindings, standard.render engine template bindings =
        .ok (String.join (pieces.map (Piece.render bindings))) := by
  have hrender (bindings : Entries Json) : standard.render engine template bindings =
      ((parse template).map (renderPieces bindings)).mapError (Fault.toError engine) := by
    rw [render_standard, interpolate_eq_parse]
  cases hparse : parse template with
  | error fault =>
    refine Or.inl ⟨fault, fun bindings => ?_⟩
    rw [hrender, hparse]
    rfl
  | ok pieces =>
    have hpieces : piecesOf template template.toList = .ok pieces := by
      unfold parse at hparse
      split at hparse
      · cases hparse
      · exact hparse
    refine Or.inr ⟨pieces, source_piecesOf hpieces, written_piecesOf hpieces,
      (takeTurns_piecesOf hpieces).2, fun bindings => ?_⟩
    rw [hrender, hparse]
    rfl

/-- A template that renders and does not end with an open brace renders apart from what follows:
the whole renders exactly when the rest does, and its text is theirs, one behind the other. -/
theorem render_append (engine : Engine) (first second : String) (bindings : Entries Json)
    {text : String} (rendered : standard.render engine first bindings = .ok text)
    (closed : first.toList.getLast? ≠ some '{') :
    (standard.render engine (first ++ second) bindings).toOption =
      (standard.render engine second bindings).toOption.map (text ++ ·) := by
  have hfirst : (interpolate first bindings).toOption = some text := by
    rw [← toOption_render_standard engine, rendered]
    rfl
  rw [toOption_render_standard, toOption_render_standard]
  unfold interpolate at hfirst ⊢
  split at hfirst
  · cases hfirst
  · rename_i hplain
    rw [String.toList_append, hasBlockTag_append (Bool.eq_false_iff.2 hplain) closed,
      fill_append (Except.ok_of_toOption hfirst) closed]
    split
    · rfl
    · rw [← toOption_fill (first ++ second) second]
      cases fill (first ++ second) bindings second.toList <;> rfl

end Renderers

namespace Sample

/-- A tag with a brace too many behind it, and a value that looks like a tag. -/
def greeting : String := "Dear \x7b\x7b name \x7d\x7d\x7d, "

def names : Entries Json := [("name", .string "\x7b\x7b me \x7d\x7d")]

end Sample

theorem Renderers.render_append_sample :
    Renderers.standard.render .mustache Sample.greeting Sample.names =
        .ok "Dear \x7b\x7b me \x7d\x7d\x7d, " ∧
      Sample.greeting.toList.getLast? ≠ some '{' ∧
      (Renderers.standard.render .mustache (Sample.greeting ++ "\x7b\x7b\x7bname\x7d\x7d\x7d\x7b")
          Sample.names).toOption =
        (Renderers.standard.render .mustache "\x7b\x7b\x7bname\x7d\x7d\x7d\x7b"
          Sample.names).toOption.map ("Dear \x7b\x7b me \x7d\x7d\x7d, " ++ ·) := by
  have rendered : Renderers.standard.render .mustache Sample.greeting Sample.names =
      .ok "Dear \x7b\x7b me \x7d\x7d\x7d, " := Except.ok_of_toOption (by decide +kernel)
  have closed : Sample.greeting.toList.getLast? ≠ some '{' := by decide
  exact ⟨rendered, closed, Renderers.render_append .mustache Sample.greeting _ Sample.names rendered
    closed⟩

end BrickPipeline
