import BrickPipeline.Error
import BrickPipeline.Scope.Path

/-!
Templates with `{{ path }}` tags. A template is rendered in one pass: text is copied up to the next
tag, which gives way to the text of the value at its path. Sections, blocks and filters are
refused, so that no template silently renders to something else than it says.
-/
namespace BrickPipeline

/-- The template engines a renderer can be registered for. -/
inductive Engine where
  | mustache
  | nunjucks
  | handlebars
deriving DecidableEq, Inhabited

def Engine.name : Engine → String
  | .mustache => "mustache"
  | .nunjucks => "nunjucks"
  | .handlebars => "handlebars"

namespace Template

/-- Why a template cannot be rendered. -/
inductive Fault where
  | blockTag
  | unclosed (template : String)
  | section (tag : String)
  | filter (tag : String)
  | unsupported (path : String)
  | noRenderer
deriving DecidableEq

def Fault.message : Fault → String
  | .blockTag => "block tags are not supported"
  | .unclosed template => s!"unclosed tag in '{template}'"
  | .section tag =>
    "sections and partials are not supported: '\x7b\x7b" ++ tag ++ "\x7d\x7d'"
  | .filter tag => s!"filters are not supported: '{tag}'"
  | .unsupported path => s!"unsupported expression '{path}'"
  | .noRenderer => "no renderer registered"

def Fault.toError (engine : Engine) (fault : Fault) : Error :=
  .template engine.name fault.message

/-- A character that may follow in the path of a tag. -/
def isTagChar (c : Char) : Bool :=
  Path.isKeyChar c || c == '.' || c == '?' || c == '[' || c == ']'

def isTagPath : List Char → Bool
  | [] => false
  | c :: cs => Path.isHeadStart c && cs.all isTagChar

/-- A character that opens a section or a partial. -/
def opensSection (c : Char) : Bool := c == '#' || c == '^' || c == '/' || c == '>'

/-- The path that a tag names, behind an ampersand or not. -/
def tagPath : List Char → List Char
  | '&' :: rest => Text.trim rest
  | tag => tag

/-- The text that a tag stands for: none for a comment, else that of the value at its path. -/
def evaluate (bindings : Entries Json) (tag : List Char) : Except Fault String :=
  if tag.head? = some '!' then .ok ""
  else if tag.head?.any opensSection then .error (.section (String.ofList tag))
  else if tag.contains '|' then .error (.filter (String.ofList tag))
  else
    let path := String.ofList (tagPath tag)
    if isTagPath (tagPath tag) then
      .ok (((Path.getVisible? bindings path).map Json.displayText).getD "")
    else .error (.unsupported path)

def opening (triple : Bool) : List Char := if triple then ['{', '{', '{'] else ['{', '{']

def closing (triple : Bool) : List Char := if triple then ['}', '}', '}'] else ['}', '}']

/-- What comes next in a template: nothing but text, or a tag behind some text. -/
inductive Next where
  | text
  | unclosed
  | tag (before : List Char) (triple : Bool) (body rest : List Char)

/-- Whether a tag has a third brace behind the first two, and what stands behind all of them. -/
def openTag : List Char → Bool × List Char
  | '{' :: inner => (true, inner)
  | inner => (false, inner)

/-- A tag begins at the first two braces, and ends at the first ones that close it. -/
def next (remaining : List Char) : Next :=
  match Text.cut? (opening false) remaining with
  | none => .text
  | some (before, afterOpen) =>
    let (triple, inner) := openTag afterOpen
    match Text.cut? (closing triple) inner with
    | none => .unclosed
    | some (body, rest) => .tag before triple body rest

theorem opening_ne_nil (triple : Bool) : opening triple ≠ [] := by
  cases triple <;> simp [opening]

theorem closing_ne_nil (triple : Bool) : closing triple ≠ [] := by
  cases triple <;> simp [closing]

theorem opening_append_openTag (afterOpen : List Char) :
    opening false ++ afterOpen = opening (openTag afterOpen).1 ++ (openTag afterOpen).2 := by
  unfold openTag
  split <;> rfl

theorem next_eq_text_iff {remaining : List Char} :
    next remaining = .text ↔ Text.cut? (opening false) remaining = none := by
  unfold next
  split
  · rename_i hopen
    simp [hopen]
  · rename_i hopen
    dsimp only
    split <;> simp [hopen]

theorem next_eq_tag_iff {remaining before body rest : List Char} {triple : Bool} :
    next remaining = .tag before triple body rest ↔
      ∃ afterOpen inner, Text.cut? (opening false) remaining = some (before, afterOpen) ∧
        openTag afterOpen = (triple, inner) ∧
        Text.cut? (closing triple) inner = some (body, rest) := by
  unfold next
  constructor
  · intro h
    split at h
    · cases h
    · rename_i first afterOpen hopen
      dsimp only at h
      split at h
      · cases h
      · rename_i hclose
        cases h
        exact ⟨afterOpen, _, hopen, rfl, hclose⟩
  · rintro ⟨afterOpen, inner, hopen, hinner, hclose⟩
    simp only [hopen, hinner, hclose]

/-- A tag and the texts around it are all of the text that it was found in. -/
theorem eq_of_next {remaining before body rest : List Char} {triple : Bool}
    (h : next remaining = .tag before triple body rest) :
    remaining = before ++ opening triple ++ body ++ closing triple ++ rest := by
  obtain ⟨afterOpen, inner, hopen, hinner, hclose⟩ := next_eq_tag_iff.1 h
  have hall := ((Text.cut?_eq_some_iff (opening_ne_nil false)).1 hopen).1
  have hrest := ((Text.cut?_eq_some_iff (closing_ne_nil triple)).1 hclose).1
  rw [List.append_assoc, opening_append_openTag, hinner, hrest] at hall
  simpa using hall

theorem length_lt_of_next {remaining before body rest : List Char} {triple : Bool}
    (h : next remaining = .tag before triple body rest) : rest.length < remaining.length := by
  have hl := congrArg List.length (eq_of_next h)
  have := List.length_pos_iff.2 (opening_ne_nil triple)
  simp only [List.length_append] at hl
  omega

/-- Render what remains of a template; the first fault met ends it. -/
def fill (template : String) (bindings : Entries Json) (remaining : List Char) :
    Except Fault String :=
  match _h : next remaining with
  | .text => .ok (String.ofList remaining)
  | .unclosed => .error (.unclosed template)
  | .tag before _ body rest => do
    let value ← evaluate bindings (Text.trim body)
    return String.ofList before ++ value ++ (← fill template bindings rest)
termination_by remaining.length
decreasing_by exact length_lt_of_next ‹_›

section

variable {template : String} {bindings : Entries Json} {remaining : List Char}

theorem fill_next : fill template bindings remaining =
    match next remaining with
    | .text => .ok (String.ofList remaining)
    | .unclosed => .error (.unclosed template)
    | .tag before _ body rest => do
      let value ← evaluate bindings (Text.trim body)
      return String.ofList before ++ value ++ (← fill template bindings rest) := by
  rw [fill]
  split <;> rename_i h <;> rw [h]

theorem fill_of_text (h : next remaining = .text) :
    fill template bindings remaining = .ok (String.ofList remaining) := by
  rw [fill_next, h]

theorem fill_of_unclosed (h : next remaining = .unclosed) :
    fill template bindings remaining = .error (.unclosed template) := by
  rw [fill_next, h]

theorem fill_of_tag {before body rest : List Char} {triple : Bool}
    (h : next remaining = .tag before triple body rest) :
    fill template bindings remaining = do
      let value ← evaluate bindings (Text.trim body)
      return String.ofList before ++ value ++ (← fill template bindings rest) := by
  rw [fill_next, h]

end

def hasBlockTag (template : List Char) : Bool := (Text.cut? ['{', '%'] template).isSome

/-- Interpolate the values at the paths that a template names. -/
def interpolate (template : String) (bindings : Entries Json) : Except Fault String :=
  if hasBlockTag template.toList then .error .blockTag
  else fill template bindings template.toList

end Template

/-- Renderers by engine. -/
structure Renderers where
  renderer? : Engine → Option (String → Entries Json → Except Template.Fault String)

namespace Renderers

def only (has : Engine → Bool) : Renderers :=
  ⟨fun engine => if has engine then some Template.interpolate else none⟩

def standard : Renderers := only fun _ => true

/-- Render a template with the renderer of an engine. -/
def render (renderers : Renderers) (engine : Engine) (template : String)
    (bindings : Entries Json) : Except Error String :=
  match renderers.renderer? engine with
  | none => .error (Template.Fault.noRenderer.toError engine)
  | some renderer => (renderer template bindings).mapError (Template.Fault.toError engine)

end Renderers
end BrickPipeline
