import BrickPipeline.Proofs.Concealment

/-!
How deep a service record is hidden. A variable or a template never shows the record among the own
fields of the value that it finds. It does show a record further down in that value, and one that is
bound by itself, so contexts that differ in such records alone render alike only where neither is
found.
-/
namespace BrickPipeline

namespace Json

mutual

/-- The value without all that stands under the key of a service record, at any depth. -/
def redacted : Json → Json
  | .array items => .array (redactedItems items)
  | .object fields => .object (redactedFields fields)
  | value => value

def redactedItems : List Json → List Json
  | [] => []
  | item :: rest => redacted item :: redactedItems rest

def redactedFields : List (String × Json) → List (String × Json)
  | [] => []
  | (key, value) :: rest =>
    if key = serviceKey then redactedFields rest
    else (key, redacted value) :: redactedFields rest

end

theorem redactedItems_eq (items : List Json) : redactedItems items = items.map redacted := by
  induction items with
  | nil => rfl
  | cons item rest ih => rw [redactedItems, ih, List.map_cons]

theorem redactedFields_eq (fields : Entries Json) :
    redactedFields fields = Entries.mapValues redacted (Entries.erase serviceKey fields) := by
  induction fields with
  | nil => rfl
  | cons field rest ih =>
    obtain ⟨key, value⟩ := field
    unfold Entries.erase Entries.mapValues at ih ⊢
    by_cases hk : key = serviceKey
    · simpa [redactedFields, hk] using ih
    · simpa [redactedFields, hk] using ih

theorem get?_redactedFields {key : String} (hk : key ≠ serviceKey) (fields : Entries Json) :
    Entries.get? key (redactedFields fields) = (Entries.get? key fields).map redacted := by
  rw [redactedFields_eq, Entries.get?_mapValues, Entries.get?_erase_of_ne hk]

@[simp] theorem redacted_withoutService (value : Json) :
    value.withoutService.redacted = value.redacted := by
  cases value with
  | object fields =>
    simp only [withoutService, redacted, redactedFields_eq, Entries.erase_erase]
  | _ => rfl

@[simp] theorem withoutService_redacted (value : Json) :
    value.redacted.withoutService = value.redacted := by
  cases value with
  | object fields =>
    simp only [withoutService, redacted, redactedFields_eq, Entries.erase_mapValues,
      Entries.erase_erase]
  | _ => rfl

end Json

/-- The context without all that stands under the key of a service record: a binding of its own, or
a field at any depth of a bound value. -/
def Context.redacted (ctx : Context) : Context := ⟨Json.redactedFields ctx.bindings⟩

/-! A visible lookup finds in a redacted context what it finds in the whole one, redacted. -/

namespace Path

/-- Whether the first key of a path is that of a service record. -/
def startsAtRecord (path : String) : Bool := (segments path).head?.any (·.key == serviceKey)

theorem atPositions_redacted (value : Json) (positions : List Nat) :
    atPositions value.redacted positions = (atPositions value positions).map Json.redacted := by
  induction positions generalizing value with
  | nil => rfl
  | cons position rest ih =>
    have hat : value.redacted.at? position = (value.at? position).map Json.redacted := by
      cases value with
      | array items => simp [Json.redacted, Json.at?, Json.redactedItems_eq]
      | _ => rfl
    rw [atPositions, atPositions, hat]
    cases value.at? position with
    | none => rfl
    | some next => exact ih next

theorem atKey_redacted (value : Json) {key : String} (hk : key ≠ serviceKey) :
    atKey value.redacted key = (atKey value key).map Json.redacted := by
  cases value with
  | array items =>
    show (Text.parseIndex? key.toList).bind ((Json.redactedItems items)[·]?) =
      ((Text.parseIndex? key.toList).bind (items[·]?)).map Json.redacted
    cases Text.parseIndex? key.toList with
    | none => rfl
    | some n => simp [Json.redactedItems_eq]
  | object fields => exact Json.get?_redactedFields hk fields
  | _ => rfl

theorem step_redacted (value : Json) (segment : Segment) :
    step true value.redacted segment = (step true value segment).map Json.redacted := by
  unfold step
  by_cases hk : segment.key = serviceKey
  · simp [hk]
  · have hv : (true && segment.key == serviceKey) = false := by simpa using hk
    rw [hv, if_neg Bool.false_ne_true, if_neg Bool.false_ne_true]
    split
    · exact atPositions_redacted value segment.positions
    · rw [atKey_redacted value hk]
      cases atKey value segment.key with
      | none => rfl
      | some next => exact atPositions_redacted next segment.positions

theorem follow_redacted (value : Json) (segments : List Segment) :
    follow true value.redacted segments = (follow true value segments).map Json.redacted := by
  induction segments generalizing value with
  | nil => rfl
  | cons segment rest ih =>
    rw [follow, follow, step_redacted]
    cases step true value segment with
    | none => rfl
    | some next => exact ih next

theorem getVisible?_redacted (ctx : Context) {path : String} (hp : startsAtRecord path = false) :
    getVisible? ctx.redacted.bindings path =
      (getVisible? ctx.bindings path).map Json.redacted := by
  unfold startsAtRecord at hp
  unfold getVisible?
  cases hs : segments path with
  | nil => rfl
  | cons head rest =>
    have hk : head.key ≠ serviceKey := by simpa [hs] using hp
    show ((Entries.get? head.key (Json.redactedFields ctx.bindings)).bind fun value =>
        (atPositions value head.positions).bind (follow true · rest)) =
      ((Entries.get? head.key ctx.bindings).bind fun value =>
        (atPositions value head.positions).bind (follow true · rest)).map Json.redacted
    rw [Json.get?_redactedFields hk]
    cases Entries.get? head.key ctx.bindings with
    | none => rfl
    | some value =>
      simp only [Option.map_some, Option.bind_some, atPositions_redacted]
      cases atPositions value head.positions with
      | none => rfl
      | some next => exact follow_redacted next rest

end Path

/-! The paths that a config value names. -/

def Template.Piece.path? : Piece → Option String
  | .lookup _ _ path => some path
  | _ => none

/-- The paths of the tags in a template. -/
def Template.paths (template : String) : List String :=
  match parse template with
  | .ok pieces => pieces.filterMap Piece.path?
  | .error _ => []

def Expr.paths : Expr → List String
  | .template _ (some source) => Template.paths source
  | .var (some path) => [path]
  | _ => []

/-- Whether no record shows at a path: the path does not start at one, and there is none below the
own fields of the value that is found. -/
structure Context.ClearAt (ctx : Context) (path : String) : Prop where
  start : Path.startsAtRecord path = false
  found : ∀ value, Path.getVisible? ctx.bindings path = some value →
    value.withoutService.redacted = value.withoutService

section

variable {first second : Context} (same : first.redacted = second.redacted)

include same

theorem Path.getVisible?_clear {path : String} (hf : first.ClearAt path)
    (hs : second.ClearAt path) :
    SameVisible (getVisible? first.bindings path) (getVisible? second.bindings path) := by
  have hr := getVisible?_redacted first hf.start
  rw [same, getVisible?_redacted second hf.start] at hr
  cases hfirst : getVisible? first.bindings path with
  | none =>
    rw [hfirst] at hr
    rw [Option.map_eq_none_iff.1 hr]
    rfl
  | some a =>
    rw [hfirst] at hr
    obtain ⟨b, hb, hab⟩ := Option.map_eq_some_iff.1 hr
    rw [hb]
    refine congrArg some ?_
    calc a.withoutService = a.redacted := by rw [← hf.found a hfirst, Json.redacted_withoutService]
      _ = b.redacted := hab.symm
      _ = b.withoutService := by rw [← hs.found b hb, Json.redacted_withoutService]

theorem Template.Piece.render_clear {piece : Piece}
    (clear : ∀ path ∈ piece.path?, first.ClearAt path ∧ second.ClearAt path) :
    piece.render first.bindings = piece.render second.bindings := by
  cases piece with
  | text _ => rfl
  | comment _ _ => rfl
  | lookup _ _ path =>
    obtain ⟨hf, hs⟩ := clear path rfl
    simp only [Piece.render, (Path.getVisible?_clear same hf hs).map_displayText]

theorem Template.interpolate_clear {template : String}
    (clear : ∀ path ∈ paths template, first.ClearAt path ∧ second.ClearAt path) :
    interpolate template first.bindings = interpolate template second.bindings := by
  rw [interpolate_eq_parse, interpolate_eq_parse]
  unfold paths at clear
  cases hparse : parse template with
  | error fault => simp only [Except.map]
  | ok pieces =>
    rw [hparse] at clear
    have hpieces : pieces.map (Piece.render first.bindings) =
        pieces.map (Piece.render second.bindings) :=
      List.map_congr_left fun piece hm => Piece.render_clear same fun path hp =>
        clear path (List.mem_filterMap.2 ⟨piece, hm, hp⟩)
    exact congrArg (fun texts => Except.ok (String.join texts)) hpieces

theorem Render.variableValue_clear {path : String} (hf : first.ClearAt path)
    (hs : second.ClearAt path) :
    variableValue (some path) first = variableValue (some path) second :=
  congrArg (·.getD .null) (Path.getVisible?_clear same hf hs)

end

namespace Render

/-- A variable renders in a redacted context to what it does in the whole one, redacted. -/
theorem variableValue_redacted (ctx : Context) {path : String}
    (hp : Path.startsAtRecord path = false) :
    variableValue (some path) ctx.redacted = (variableValue (some path) ctx).redacted := by
  simp only [variableValue, Path.getVisible?_redacted ctx hp]
  cases Path.getVisible? ctx.bindings path with
  | none => rfl
  | some value => simp

/-- A path is clear of records exactly if what a variable finds there holds none. -/
theorem clearAt_iff (ctx : Context) {path : String} (hp : Path.startsAtRecord path = false) :
    ctx.ClearAt path ↔
      (variableValue (some path) ctx).redacted = variableValue (some path) ctx := by
  have hvalue : variableValue (some path) ctx =
      ((Path.getVisible? ctx.bindings path).map Json.withoutService).getD .null := rfl
  rw [hvalue]
  constructor
  · intro clear
    cases hv : Path.getVisible? ctx.bindings path with
    | none => rfl
    | some value => exact clear.found value hv
  · intro h
    refine ⟨hp, fun value hv => ?_⟩
    rw [hv] at h
    exact h

/-- Contexts that differ in service records alone, at any depth, render a variable to values that
differ in such records alone, unless its path starts at one; what is rendered holds none exactly if
the path is clear of them. Where all paths of a variable or a template are clear in both contexts,
both render it alike. -/
theorem explicit_redacted (has : Engine → Bool) {first second : Context}
    (same : first.redacted = second.redacted) :
    (∀ path, Path.startsAtRecord path = false →
      (variableValue (some path) first).redacted = (variableValue (some path) second).redacted ∧
        (first.ClearAt path ↔
          (variableValue (some path) first).redacted = variableValue (some path) first)) ∧
    ∀ config : Expr, config.isTemplate = true →
      (∀ path ∈ config.paths, first.ClearAt path ∧ second.ClearAt path) →
      explicit (.only has) first config = explicit (.only has) second config := by
  constructor
  · intro path hp
    refine ⟨?_, clearAt_iff first hp⟩
    rw [← variableValue_redacted first hp, ← variableValue_redacted second hp, same]
  · intro config hc clear
    cases config with
    | template engine source =>
      cases source with
      | none => rfl
      | some source =>
        exact templateText_congr has engine (Template.interpolate_clear same clear)
    | var path =>
      cases path with
      | none => rfl
      | some path =>
        obtain ⟨hf, hs⟩ := clear path List.mem_cons_self
        exact congrArg Except.ok (variableValue_clear same hf hs)
    | _ => cases hc

end Render

namespace Sample

/-- A service that is bound, a list that holds another, and the record of one bound by itself. -/
def exposing (id : String) : Context :=
  ⟨[("@api", .object [("__service", .string id), ("url", .string "here")]),
    ("@rows", .array [.object [("__service", .string id), ("n", .nat 1)]]),
    ("__service", .string id)]⟩

theorem redacted_exposing (first second : String) :
    (exposing first).redacted = (exposing second).redacted := rfl

/-- A template that asks for both services, and in vain for a record. -/
def lookingUp : Expr :=
  .template .mustache (some
    "\x7b\x7b @api \x7d\x7d \x7b\x7b @rows[0] \x7d\x7d \x7b\x7b @rows[0].__service \x7d\x7d")

theorem clearAt_lookingUp (id : String) : ∀ path ∈ lookingUp.paths, (exposing id).ClearAt path := by
  have hpaths : lookingUp.paths = ["@api", "@rows[0]", "@rows[0].__service"] := by decide +kernel
  have hapi : Path.getVisible? (exposing id).bindings "@api" =
      some (.object [("__service", .string id), ("url", .string "here")]) := rfl
  have hrow : Path.getVisible? (exposing id).bindings "@rows[0]" =
      some (.object [("__service", .string id), ("n", .nat 1)]) := rfl
  have hrecord : Path.getVisible? (exposing id).bindings "@rows[0].__service" = none := rfl
  rw [hpaths]
  simp only [List.forall_mem_cons, List.not_mem_nil, false_implies, implies_true, and_true]
  refine ⟨⟨by decide +kernel, ?_⟩, ⟨by decide +kernel, ?_⟩, ⟨by decide +kernel, ?_⟩⟩
  · intro value hv
    cases hapi.symm.trans hv
    rfl
  · intro value hv
    cases hrow.symm.trans hv
    rfl
  · intro value hv
    cases hrecord.symm.trans hv

/-- The text of what was rendered. -/
def rendered (result : Except Error Json) : Option String := result.toOption.map Json.render

end Sample

theorem Render.explicit_redacted_sample :
    (Sample.exposing "first").redacted = (Sample.exposing "second").redacted ∧
      Path.startsAtRecord "@rows" = false ∧
      (variableValue (some "@rows") (Sample.exposing "first")).redacted =
        (variableValue (some "@rows") (Sample.exposing "second")).redacted ∧
      Sample.lookingUp.isTemplate = true ∧
      (∀ path ∈ Sample.lookingUp.paths,
        (Sample.exposing "first").ClearAt path ∧ (Sample.exposing "second").ClearAt path) ∧
      explicit .standard (Sample.exposing "first") Sample.lookingUp =
        explicit .standard (Sample.exposing "second") Sample.lookingUp := by
  have same := Sample.redacted_exposing "first" "second"
  have start : Path.startsAtRecord "@rows" = false := by decide +kernel
  have clear : ∀ path ∈ Sample.lookingUp.paths,
      (Sample.exposing "first").ClearAt path ∧ (Sample.exposing "second").ClearAt path :=
    fun path hp =>
      ⟨Sample.clearAt_lookingUp "first" path hp, Sample.clearAt_lookingUp "second" path hp⟩
  obtain ⟨values, alike⟩ := explicit_redacted (fun _ => true) same
  exact ⟨same, start, (values "@rows" start).1, rfl, clear, alike Sample.lookingUp rfl clear⟩

/-- A record that is not among the own fields of the value that is found shows in the value and in
its text, and so does one that is bound by itself. -/
theorem Render.exists_exposed :
    ∃ first second : Context, first.redacted = second.redacted ∧
      explicit .standard first (.var (some "@rows")) ≠
        explicit .standard second (.var (some "@rows")) ∧
      explicit .standard first (.template .mustache (some "\x7b\x7b @rows \x7d\x7d")) ≠
        explicit .standard second (.template .mustache (some "\x7b\x7b @rows \x7d\x7d")) ∧
      explicit .standard first (.var (some "__service")) ≠
        explicit .standard second (.var (some "__service")) :=
  ⟨Sample.exposing "first", Sample.exposing "second", Sample.redacted_exposing "first" "second",
    fun h => absurd (congrArg Sample.rendered h) (by decide +kernel),
    fun h => absurd (congrArg Sample.rendered h) (by decide +kernel),
    fun h => absurd (congrArg Sample.rendered h) (by decide +kernel)⟩

end BrickPipeline
