import BrickPipeline.Expr.Render

/-!
The two ways of rendering agree where no plain text is rendered: they fail alike, and the explicit
one leaves out the null entries of the config's own objects.
-/
namespace BrickPipeline

namespace Expr

mutual

/-- Whether plain text stands in a config value, outside its sub-pipelines and deferred values. -/
def hasPlainText : Expr → Bool
  | .literal (.string _) => true
  | .array items => itemsHavePlainText items
  | .object entries => entriesHavePlainText entries
  | _ => false

def itemsHavePlainText : List Expr → Bool
  | [] => false
  | item :: rest => hasPlainText item || itemsHavePlainText rest

def entriesHavePlainText : List (String × Expr) → Bool
  | [] => false
  | (_, value) :: rest => hasPlainText value || entriesHavePlainText rest

end

mutual

/-- What a config value was rendered to, without the null entries of the objects that the config
value has itself, at any depth. What comes from an expression or from plain data stays as it is. -/
def withoutNulls : Expr → Json → Json
  | .array items, .array values => .array (itemsWithoutNulls items values)
  | .object entries, .object fields => .object (entriesWithoutNulls entries fields)
  | _, value => value

def itemsWithoutNulls : List Expr → List Json → List Json
  | item :: rest, value :: values => withoutNulls item value :: itemsWithoutNulls rest values
  | _, values => values

def entriesWithoutNulls : List (String × Expr) → List (String × Json) → List (String × Json)
  | (_, entry) :: rest, (key, value) :: fields =>
    if value.isNull then entriesWithoutNulls rest fields
    else (key, withoutNulls entry value) :: entriesWithoutNulls rest fields
  | _, fields => fields

end

@[simp] theorem isNull_withoutNulls (config : Expr) (value : Json) :
    (config.withoutNulls value).isNull = value.isNull := by
  unfold withoutNulls
  split <;> rfl

end Expr

namespace Render

open BrickPipeline.Expr

variable (renderers : Renderers) (engine : Engine) (ctx : Context)

mutual

theorem explicit_eq_map : ∀ config : Expr, config.hasPlainText = false →
    explicit renderers ctx config =
      config.withoutNulls <$> implicit renderers engine ctx config
  | .literal value, h => by
    cases value with
    | string text => cases h
    | _ => rfl
  | .template other source, _ => by
    have hsame : withoutNulls (.template other source) = id := rfl
    rw [hsame, id_map]
    rfl
  | .var _, _ => rfl
  | .pipeline _ _, _ => rfl
  | .defer _, _ => rfl
  | .array items, h => by
    rw [explicit, implicit, explicitItems_eq_map items h]
    cases implicitItems renderers engine ctx items <;> rfl
  | .object entries, h => by
    rw [explicit, implicit, explicitEntries_eq_map entries h]
    cases implicitEntries renderers engine ctx entries <;> rfl

theorem explicitItems_eq_map : ∀ items : List Expr, itemsHavePlainText items = false →
    explicitItems renderers ctx items =
      itemsWithoutNulls items <$> implicitItems renderers engine ctx items
  | [], _ => rfl
  | item :: rest, h => by
    obtain ⟨hitem, hrest⟩ := Bool.or_eq_false_iff.1 h
    rw [explicitItems, implicitItems, explicit_eq_map item hitem,
      explicitItems_eq_map rest hrest]
    cases implicit renderers engine ctx item with
    | error error => rfl
    | ok value => cases implicitItems renderers engine ctx rest <;> rfl

theorem explicitEntries_eq_map : ∀ entries : List (String × Expr),
    entriesHavePlainText entries = false →
    explicitEntries renderers ctx entries =
      entriesWithoutNulls entries <$> implicitEntries renderers engine ctx entries
  | [], _ => rfl
  | (key, entry) :: rest, h => by
    obtain ⟨hentry, hrest⟩ := Bool.or_eq_false_iff.1 h
    rw [explicitEntries, implicitEntries, explicit_eq_map entry hentry,
      explicitEntries_eq_map rest hrest]
    cases implicit renderers engine ctx entry with
    | error error => rfl
    | ok value =>
      cases implicitEntries renderers engine ctx rest with
      | error error => rfl
      | ok fields =>
        -- An entry is null before its own null entries are left out exactly if it is after.
        have hnull := isNull_withoutNulls entry value
        change Except.ok (consUnlessNull key (entry.withoutNulls value)
          (entriesWithoutNulls rest fields)) = Except.ok _
        rw [consUnlessNull, hnull]
        rfl

end

/-- Without plain text explicit rendering is implicit rendering, with any engine, followed by
leaving out the null entries of the config's own objects; it fails exactly if that does, and with
the same failure. -/
theorem explicit_of_implicit :
    (∀ config : Expr, config.hasPlainText = false →
      value renderers .explicit ctx config =
        config.withoutNulls <$> value renderers (.implicit engine) ctx config) ∧
    ∀ config : Entries Expr, entriesHavePlainText config = false →
      arguments renderers .explicit ctx config =
        (Expr.object config).withoutNulls <$>
          arguments renderers (.implicit engine) ctx config := by
  constructor
  · intro config h
    exact explicit_eq_map renderers engine ctx config h
  · intro config h
    exact explicit_eq_map renderers engine ctx (.object config) h

namespace Sample

/-- Arguments with nulls in a list, in an object, and in what a variable names. -/
def holed : Entries Expr :=
  [("list", .array [.literal .null, .var (some "@gone")]),
    ("own", .object [("gone", .var (some "@gone")), ("one", .literal (.nat 1))]),
    ("row", .var (some "@row"))]

def withRow : Context := ⟨[("@row", .object [("cell", .null)])]⟩

end Sample

theorem explicit_of_implicit_sample :
    entriesHavePlainText Sample.holed = false ∧
      arguments .standard (.implicit .mustache) Sample.withRow Sample.holed =
        .ok (.object [("list", .array [.null, .null]),
          ("own", .object [("gone", .null), ("one", .nat 1)]),
          ("row", .object [("cell", .null)])]) ∧
      arguments .standard .explicit Sample.withRow Sample.holed =
        .ok (.object [("list", .array [.null, .null]), ("own", .object [("one", .nat 1)]),
          ("row", .object [("cell", .null)])]) := by
  have himplicit : arguments .standard (.implicit .mustache) Sample.withRow Sample.holed =
      .ok (.object [("list", .array [.null, .null]),
        ("own", .object [("gone", .null), ("one", .nat 1)]),
        ("row", .object [("cell", .null)])]) := rfl
  obtain ⟨-, hexplicit⟩ := explicit_of_implicit .standard .mustache Sample.withRow
  refine ⟨rfl, himplicit, ?_⟩
  rw [hexplicit Sample.holed rfl, himplicit]
  rfl

end Render

end BrickPipeline
