import Mathlib.Algebra.Order.Field.Rat
import Mathlib.Algebra.Order.Ring.Cast
import Mathlib.Tactic.Ring
import BrickPipeline.Schema

/-!
What a schema demands of a value itself, keyword by keyword, in terms of the value alone. What the
checks report at a value are the demands that it does not meet.
-/
namespace BrickPipeline

namespace Json.Double

/-- The number that is denoted. -/
def value (x : Double) : ℚ := (if x.negative then -1 else 1) * x.mantissa * 2 ^ x.exponent

theorem inUnits_mul (x : Double) {e : Int} (h : e ≤ x.exponent) :
    (x.inUnits e : ℚ) * 2 ^ e = x.value := by
  have hpow : (2 : ℚ) ^ (x.exponent - e).toNat * 2 ^ e = 2 ^ x.exponent := by
    rw [← zpow_natCast, ← zpow_add₀ (two_ne_zero : (2 : ℚ) ≠ 0)]
    congr 1
    omega
  have hmagnitude : ((x.mantissa * Nat.pow 2 (x.exponent - e).toNat : Nat) : ℚ) * 2 ^ e =
      x.mantissa * 2 ^ x.exponent := by
    rw [Nat.pow_eq]
    push_cast
    rw [mul_assoc, hpow]
  unfold inUnits value
  dsimp only
  split
  · rw [Int.cast_neg, Int.cast_natCast, neg_mul, hmagnitude]
    ring
  · rw [Int.cast_natCast, hmagnitude, one_mul]

/-- Doubles are compared as the numbers that they denote. -/
theorem lt_iff (x y : Double) : x.lt y = true ↔ x.value < y.value := by
  have hpos : (0 : ℚ) < 2 ^ min x.exponent y.exponent := zpow_pos two_pos _
  unfold lt
  rw [decide_eq_true_iff, ← inUnits_mul x (min_le_left _ _), ← inUnits_mul y (min_le_right _ _),
    mul_lt_mul_iff_left₀ hpos, Int.cast_lt]

end Json.Double

namespace Schema

/-- Whether a value is of the type that a name stands for; an unknown name stands for all. -/
def Named (name : String) (value : Json) : Prop :=
  (name = "null" → value = .null) ∧ (name = "boolean" → ∃ b, value = .bool b) ∧
  (name = "string" → ∃ s, value = .string s) ∧ (name = "number" → ∃ n, value = .number n) ∧
  (name = "integer" → ∃ n, value = .int n) ∧
  (name = "array" → ∃ items, value = .array items) ∧
  (name = "object" → ∃ fields, value = .object fields)

theorem hasType_iff (value : Json) (name : String) :
    hasType value name = true ↔ Named name value := by
  unfold hasType
  split <;> simp_all [Named, Json.int]

/-- Something that a schema demands of a value, apart from what it says of the value's parts. -/
inductive Demand where
  | never
  | type
  | enum
  | minimum
  | maximum
  | required (name : String)
deriving DecidableEq

/-- The names that `required` lists. -/
def requiredNames (schema : Json) : List String :=
  match schema.get? "required" with
  | some (.array names) => names.filterMap Json.asString?
  | _ => []

/-- What a schema demands, in the order of its checks. -/
def demands : Json → List Demand
  | .bool false => [.never]
  | schema => [.type, .enum, .minimum, .maximum] ++ (requiredNames schema).map .required

/-- The number that a keyword holds. -/
def boundOf (schema : Json) (name : String) : Option Json.Double :=
  (schema.get? name).bind Json.asDouble?

/-- The keywords of a schema; none if it is not an object. -/
def keywordsOf : Json → Entries Json
  | .object keywords => keywords
  | _ => []

theorem get?_keywordsOf (schema : Json) (name : String) :
    Entries.get? name (keywordsOf schema) = schema.get? name := by
  cases schema <;> rfl

theorem bound?_keywordsOf (schema : Json) (name : String) :
    bound? (keywordsOf schema) name = boundOf schema name := by
  unfold bound? boundOf
  rw [get?_keywordsOf]
  rfl

namespace Demand

/-- What it means that a value meets a demand. Content that a keyword cannot have demands
nothing. -/
def Met (schema value : Json) : Demand → Prop
  | .never => False
  | .type =>
    (∀ name, schema.get? "type" = some (.string name) → Named name value) ∧
    ∀ names, schema.get? "type" = some (.array names) → (∃ name, Json.string name ∈ names) →
      ∃ name, Json.string name ∈ names ∧ Named name value
  | .enum => ∀ options, schema.get? "enum" = some (.array options) →
      ∃ option ∈ options, option.same value = true
  | .minimum => ∀ low x, boundOf schema "minimum" = some low → value.asDouble? = some x →
      low.value ≤ x.value
  | .maximum => ∀ high x, boundOf schema "maximum" = some high → value.asDouble? = some x →
      x.value ≤ high.value
  | .required name => ∀ fields, value = .object fields → ∃ field, (name, field) ∈ fields

/-- Whether the first number, if both are there, is not below the second. -/
def notBelow : Option Json.Double → Option Json.Double → Bool
  | some x, some y => !x.lt y
  | _, _ => true

theorem notBelow_iff {number bound : Option Json.Double} : notBelow number bound = true ↔
    ∀ low x, bound = some low → number = some x → low.value ≤ x.value := by
  cases number with
  | none => simp [notBelow]
  | some x =>
    cases bound with
    | none => simp [notBelow]
    | some low => simp [notBelow, ← Bool.not_eq_true, Json.Double.lt_iff]

/-- Whether the checks find that a value meets a demand. -/
def isMet (schema value : Json) : Demand → Bool
  | .never => false
  | .type => typeOk (keywordsOf schema) value
  | .enum =>
    match schema.get? "enum" with
    | some (.array options) => options.any (·.same value)
    | _ => true
  | .minimum => notBelow value.asDouble? (boundOf schema "minimum")
  | .maximum => notBelow (boundOf schema "maximum") value.asDouble?
  | .required name =>
    match value with
    | .object fields => Entries.contains name fields
    | _ => true

variable {schema value : Json}

theorem mem_filterMap_asString? {items : List Json} {name : String} :
    name ∈ items.filterMap Json.asString? ↔ Json.string name ∈ items := by
  rw [List.mem_filterMap]
  constructor
  · rintro ⟨item, hitem, hname⟩
    cases item with
    | string text =>
      cases hname
      exact hitem
    | _ => cases hname
  · intro hname
    exact ⟨_, hname, rfl⟩

theorem admitted_iff (value : Json) (names : List String) :
    (names.isEmpty || names.any (hasType value)) = true ↔
      ((∃ name, name ∈ names) → ∃ name, name ∈ names ∧ Named name value) := by
  cases names with
  | nil => simp
  | cons name rest => simp [hasType_iff]

theorem typeOk_iff : typeOk (keywordsOf schema) value = true ↔ Met schema value .type := by
  unfold typeOk allowedTypes Met
  rw [get?_keywordsOf]
  cases schema.get? "type" with
  | none => simp
  | some content =>
    cases content with
    | string name => simp [hasType_iff]
    | array items =>
      have hadmitted := admitted_iff value (items.filterMap Json.asString?)
      simp only [mem_filterMap_asString?] at hadmitted
      refine hadmitted.trans ?_
      constructor
      · intro h
        exact ⟨nofun, fun _ he => by cases he; exact h⟩
      · intro h
        exact h.2 items rfl
    | _ => simp

theorem isMet_iff (demand : Demand) :
    demand.isMet schema value = true ↔ demand.Met schema value := by
  cases demand with
  | never => exact ⟨nofun, nofun⟩
  | type => exact typeOk_iff
  | enum =>
    unfold isMet Met
    cases schema.get? "enum" with
    | none => simp
    | some content => cases content <;> simp
  | minimum => exact notBelow_iff
  | maximum =>
    rw [isMet, notBelow_iff]
    exact ⟨fun h high x hhigh hx => h x high hx hhigh, fun h x high hx hhigh => h high x hhigh hx⟩
  | required name =>
    unfold isMet Met
    cases value <;> simp [Entries.contains_iff]

instance (demand : Demand) : Decidable (demand.Met schema value) :=
  decidable_of_iff _ demand.isMet_iff

/-- What is reported of a value that does not meet a demand. -/
def violation (schema value : Json) : Demand → Violation
  | .never => .notAllowed
  | .type => .wrongType (allowedTypes (keywordsOf schema)) (typeName value)
  | .enum =>
    match schema.get? "enum" with
    | some (.array options) => .notListed value options
    | _ => .notListed value []
  | .minimum => .tooSmall (value.asDouble?.getD default) ((boundOf schema "minimum").getD default)
  | .maximum => .tooLarge (value.asDouble?.getD default) ((boundOf schema "maximum").getD default)
  | .required name => .missing name

end Demand

variable (schema value : Json)

/-- What is reported of those demands of a list that a value does not meet. -/
def reported (all : List Demand) : List Violation :=
  (all.filter fun demand => ¬ demand.Met schema value).map (Demand.violation schema value)

theorem reported_append (all more : List Demand) : reported schema value (all ++ more) =
    reported schema value all ++ reported schema value more := by
  unfold reported
  rw [List.filter_append, List.map_append]

theorem reported_singleton (demand : Demand) : reported schema value [demand] =
    if demand.isMet schema value then [] else [demand.violation schema value] := by
  by_cases hmet : demand.isMet schema value = true
  · have hm : demand.Met schema value := demand.isMet_iff.1 hmet
    simp [reported, hm, hmet]
  · have hm : ¬ demand.Met schema value := fun h => hmet (demand.isMet_iff.2 h)
    simp [reported, hm, hmet]

theorem enumViolations_eq :
    enumViolations (keywordsOf schema) value = reported schema value [.enum] := by
  unfold enumViolations
  rw [reported_singleton, get?_keywordsOf, Demand.isMet, Demand.violation]
  cases schema.get? "enum" with
  | none => rfl
  | some content => cases content <;> rfl

theorem boundViolations_eq :
    boundViolations (keywordsOf schema) value = reported schema value [.minimum, .maximum] := by
  have hsplit : [Demand.minimum, .maximum] = [.minimum] ++ [.maximum] := rfl
  have hflip : ∀ (below : Bool) (violation : Violation),
      (if below then [violation] else []) = if !below then [] else [violation] := by
    intro below violation
    cases below <;> rfl
  unfold boundViolations
  rw [hsplit, reported_append, reported_singleton, reported_singleton, bound?_keywordsOf,
    bound?_keywordsOf, Demand.isMet, Demand.isMet, Demand.violation, Demand.violation]
  cases value.asDouble? with
  | none => cases boundOf schema "maximum" <;> rfl
  | some x =>
    cases boundOf schema "minimum" with
    | none => cases boundOf schema "maximum" <;> simp only [Demand.notBelow, hflip] <;> rfl
    | some low => cases boundOf schema "maximum" <;> simp only [Demand.notBelow, hflip] <;> rfl

theorem reported_required (names : List String) : reported schema value (names.map .required) =
    names.filterMap fun name =>
      if (Demand.required name).isMet schema value then none else some (.missing name) := by
  induction names with
  | nil => rfl
  | cons name rest ih =>
    have hcons : (name :: rest).map Demand.required = [.required name] ++ rest.map .required := rfl
    rw [hcons, reported_append, reported_singleton, ih, List.filterMap_cons]
    by_cases hmet : (Demand.required name).isMet schema value = true
    · rw [if_pos hmet, if_pos hmet, List.nil_append]
    · rw [if_neg hmet, if_neg hmet]
      rfl

theorem requiredViolations_eq : requiredViolations (keywordsOf schema) value =
    reported schema value ((requiredNames schema).map .required) := by
  unfold requiredViolations requiredNames
  rw [reported_required, get?_keywordsOf]
  cases value with
  | object fields =>
    cases schema.get? "required" with
    | none => rfl
    | some content => cases content <;> rfl
  | _ => exact (List.filterMap_eq_nil_iff.2 fun _ _ => rfl).symm

/-- What a value is reported for itself: its type alone if that is wrong, else every demand that it
does not meet. -/
def failing : List Demand :=
  if Demand.type.Met schema value then
    (demands schema).filter fun demand => ¬ demand.Met schema value
  else [.type]

theorem typeOk_iff_met {keywords : Entries Json} {value : Json} :
    typeOk keywords value = true ↔ Demand.type.Met (.object keywords) value :=
  @Demand.typeOk_iff (.object keywords) value

theorem map_failing_of_keywords (keywords : Entries Json) :
    (failing (.object keywords) value).map (Demand.violation (.object keywords) value) =
      if typeOk keywords value then ownViolations keywords value
      else [.wrongType (allowedTypes keywords) (typeName value)] := by
  unfold failing
  by_cases hmet : Demand.type.Met (.object keywords) value
  · have hdemands : demands (.object keywords) = [.type] ++ [.enum] ++ [.minimum, .maximum] ++
        (requiredNames (.object keywords)).map .required := rfl
    have hfirst : reported (.object keywords) value [.type] = [] := by
      rw [reported_singleton, if_pos (Demand.isMet_iff _ |>.2 hmet)]
    rw [if_pos hmet, if_pos (typeOk_iff_met.2 hmet)]
    change reported (.object keywords) value _ = _
    rw [hdemands, reported_append, reported_append, reported_append, hfirst, List.nil_append,
      ← enumViolations_eq, ← boundViolations_eq, ← requiredViolations_eq]
    rfl
  · rw [if_neg hmet, if_neg fun h => hmet (typeOk_iff_met.1 h)]
    rfl

theorem demands_of_ne {schema : Json} (h : schema ≠ .bool false) : demands schema =
    [.type, .enum, .minimum, .maximum] ++ (requiredNames schema).map .required := by
  unfold demands
  split
  · exact absurd rfl h
  · rfl

theorem type_mem_demands {schema value : Json} (h : ¬ Demand.type.Met schema value) :
    .type ∈ demands schema := by
  have hne : schema ≠ .bool false := by
    rintro rfl
    exact h ⟨nofun, nofun⟩
  rw [demands_of_ne hne]
  exact List.mem_cons_self

theorem failing_eq_nil_iff :
    failing schema value = [] ↔ ∀ demand ∈ demands schema, demand.Met schema value := by
  unfold failing
  by_cases hmet : Demand.type.Met schema value
  · simp [hmet]
  · rw [if_neg hmet]
    constructor
    · exact nofun
    · intro h
      exact absurd (h .type (type_mem_demands hmet)) hmet

/-- Every value meets what a schema without keywords demands, unless the schema is `false`. -/
theorem failing_of_no_keywords {schema : Json} (hne : schema ≠ .bool false)
    (hnone : ∀ name, schema.get? name = none) : failing schema value = [] := by
  rw [failing_eq_nil_iff, demands_of_ne hne]
  simp [requiredNames, Demand.Met, boundOf, hnone]

end Schema

end BrickPipeline
