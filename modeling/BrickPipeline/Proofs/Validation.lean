import Mathlib.Data.List.Basic
import BrickPipeline.Proofs.Demands

/-!
The checks against what schemas mean: a value passes exactly if it meets every demand and each of
its described parts passes, and what is reported is, place by place, what fails there.
-/
namespace BrickPipeline.Schema

/-- A way from a value to one of its parts. -/
inductive Turn where
  | field (name : String)
  | item (index : Nat)
deriving DecidableEq

def Turn.text : Turn → String
  | .field name => "." ++ name
  | .item index => "[" ++ toString index ++ "]"

/-- The fields of an object go by name and the items of an array by index. -/
inductive Turn.Before : Turn → Turn → Prop where
  | field {name later : String} (h : name < later) : Before (.field name) (.field later)
  | item {index later : Nat} (h : index < later) : Before (.item index) (.item later)

/-- A way from a value to a part at any depth. -/
abbrev Route := List Turn

namespace Route

def text : Route → String
  | [] => ""
  | turn :: rest => turn.text ++ text rest

/-- A value stands before its parts, and these go in order. -/
abbrev Before : Route → Route → Prop := List.Lex Turn.Before

end Route

/-- The part of a value in some direction, and what `properties` or `items` says of it. -/
def inner? (value schema : Json) : Turn → Option (Json × Json)
  | .field name => do
    let properties ← schema.get? "properties"
    return (← value.get? name, ← properties.get? name)
  | .item index => do
    return (← value.at? index, ← schema.get? "items")

/-- What schemas mean: the value meets the demands and all parts that are described are admitted. -/
inductive Admits : Json → Json → Prop where
  | intro {schema value : Json} (own : ∀ demand ∈ demands schema, demand.Met schema value)
      (parts : ∀ turn part described, inner? value schema turn = some (part, described) →
        Admits described part) : Admits schema value

/-- A value and its schema at the end of a route that does not pass a value of the wrong type. -/
def pairAt (value schema : Json) : Route → Option (Json × Json)
  | [] => some (value, schema)
  | turn :: rest =>
    if Demand.type.Met schema value then
      (inner? value schema turn).bind fun pair => pairAt pair.1 pair.2 rest
    else none

/-- A described part of a value. -/
structure Inner where
  turn : Turn
  value : Json
  schema : Json

/-- The described parts of a value, in order. -/
def inners (value schema : Json) : List Inner :=
  match value with
  | .object fields =>
    match schema.get? "properties" with
    | some (.object properties) => properties.filterMap fun property =>
      (Entries.get? property.1 fields).map fun field => ⟨.field property.1, field, property.2⟩
    | _ => []
  | .array items =>
    match schema.get? "items" with
    | some described => items.mapIdx fun index item => ⟨.item index, item, described⟩
    | none => []
  | _ => []

/-- A value and its schema, with the route to them. -/
structure Site where
  route : Route
  value : Json
  schema : Json

variable {value schema : Json}

theorem sizeOf_get?_lt {name : String} {content : Json} (h : schema.get? name = some content) :
    sizeOf content < sizeOf schema := by
  cases schema with
  | object keywords =>
    have hmem : (name, content) ∈ keywords := Entries.mem_of_get? h
    have hlt : sizeOf (name, content) < sizeOf keywords := List.sizeOf_lt_of_mem hmem
    simp only [Prod.mk.sizeOf_spec, Json.object.sizeOf_spec] at hlt ⊢
    omega
  | _ => cases h

theorem ordered_get? {name : String} {content : Json} (ordered : schema.Ordered)
    (h : schema.get? name = some content) : content.Ordered := by
  cases schema with
  | object keywords =>
    have hmem : (name, content) ∈ keywords := Entries.mem_of_get? h
    exact Json.orderedFields_iff.1 ordered.2 _ hmem
  | _ => cases h

theorem mem_inners {inner : Inner} : inner ∈ inners value schema ↔
    (∃ fields properties name, value = .object fields ∧
      schema.get? "properties" = some (.object properties) ∧ inner.turn = .field name ∧
      Entries.get? name fields = some inner.value ∧ (name, inner.schema) ∈ properties) ∨
    ∃ items index, value = .array items ∧ schema.get? "items" = some inner.schema ∧
      inner.turn = .item index ∧ items[index]? = some inner.value := by
  constructor
  · intro h
    unfold inners at h
    split at h
    · rename_i fields
      split at h
      · rename_i properties hproperties
        obtain ⟨property, hmem, hinner⟩ := List.mem_filterMap.1 h
        obtain ⟨field, hfield, rfl⟩ := Option.map_eq_some_iff.1 hinner
        exact Or.inl ⟨fields, properties, property.1, rfl, hproperties, rfl, hfield, hmem⟩
      · cases h
    · rename_i items
      split at h
      · rename_i described hitems
        obtain ⟨index, hindex, rfl⟩ := List.mem_mapIdx.1 h
        exact Or.inr ⟨items, index, rfl, hitems, rfl, List.getElem?_eq_getElem hindex⟩
      · cases h
    · cases h
  · obtain ⟨turn, part, described⟩ := inner
    rintro (⟨fields, properties, name, rfl, hproperties, rfl, hfield, hmem⟩ |
      ⟨items, index, rfl, hitems, rfl, hitem⟩)
    · simp only [inners, hproperties]
      refine List.mem_filterMap.2 ⟨(name, described), hmem, ?_⟩
      exact Option.map_eq_some_iff.2 ⟨part, hfield, rfl⟩
    · obtain ⟨hindex, rfl⟩ := List.getElem?_eq_some_iff.1 hitem
      simp only [inners, hitems]
      exact List.mem_mapIdx.2 ⟨index, hindex, rfl⟩

theorem sizeOf_lt_of_mem_inners {inner : Inner} (h : inner ∈ inners value schema) :
    sizeOf inner.schema < sizeOf schema := by
  rcases mem_inners.1 h with ⟨-, properties, name, -, hproperties, -, -, hmem⟩ |
    ⟨-, -, -, hitems, -⟩
  · have hlt := sizeOf_get?_lt hproperties
    have hin : sizeOf (name, inner.schema) < sizeOf properties := List.sizeOf_lt_of_mem hmem
    simp only [Prod.mk.sizeOf_spec, Json.object.sizeOf_spec] at hlt hin
    omega
  · exact sizeOf_get?_lt hitems

theorem ordered_of_mem_inners (ordered : schema.Ordered) {inner : Inner}
    (h : inner ∈ inners value schema) : inner.schema.Ordered := by
  rcases mem_inners.1 h with ⟨-, properties, name, -, hproperties, -, -, hmem⟩ |
    ⟨-, -, -, hitems, -⟩
  · have hordered : (Json.object properties).Ordered := ordered_get? ordered hproperties
    exact Json.orderedFields_iff.1 hordered.2 _ hmem
  · exact ordered_get? ordered hitems

theorem mem_inners_iff_inner? (ordered : schema.Ordered) {turn : Turn} {part described : Json} :
    ⟨turn, part, described⟩ ∈ inners value schema ↔
      inner? value schema turn = some (part, described) := by
  rw [mem_inners]
  constructor
  · rintro (⟨fields, properties, name, rfl, hproperties, hturn, hfield, hmem⟩ |
      ⟨items, index, rfl, hitems, hturn, hitem⟩)
    · have hsorted : Entries.Sorted properties := (ordered_get? ordered hproperties).1
      have hfound : Entries.get? name properties = some described :=
        (Entries.get?_eq_some_iff hsorted).2 hmem
      simp only at hturn hfield
      subst hturn
      simp [inner?, hproperties, Json.get?_object, hfield, hfound]
    · simp only at hturn hitem
      subst hturn
      simp [inner?, hitems, Json.at?, hitem]
  · intro h
    cases turn with
    | field name =>
      simp only [inner?, Option.bind_eq_bind, Option.bind_eq_some_iff, Option.pure_def,
        Option.some.injEq, Prod.mk.injEq] at h
      obtain ⟨properties, hproperties, field, hfield, sub, hsub, rfl, rfl⟩ := h
      obtain ⟨fields, rfl, hfield⟩ := Json.get?_eq_some_iff.1 hfield
      obtain ⟨described, rfl, hsub⟩ := Json.get?_eq_some_iff.1 hsub
      exact Or.inl ⟨fields, described, name, rfl, hproperties, rfl, hfield,
        Entries.mem_of_get? hsub⟩
    | item index =>
      simp only [inner?, Option.bind_eq_bind, Option.bind_eq_some_iff, Option.pure_def,
        Option.some.injEq, Prod.mk.injEq] at h
      obtain ⟨item, hitem, sub, hitems, rfl, rfl⟩ := h
      obtain ⟨items, rfl, hitem⟩ := Json.at?_eq_some_iff.1 hitem
      exact Or.inr ⟨items, index, rfl, hitems, rfl, hitem⟩

/-- A value and its described parts at every depth, in order. A value of the wrong type has no
described parts. -/
def sites (value schema : Json) : List Site :=
  ⟨[], value, schema⟩ ::
    if Demand.type.Met schema value then
      (inners value schema).attach.flatMap fun inner =>
        (sites inner.1.value inner.1.schema).map fun site =>
          { site with route := inner.1.turn :: site.route }
    else []
termination_by sizeOf schema
decreasing_by exact sizeOf_lt_of_mem_inners inner.2

theorem sites_eq (value schema : Json) : sites value schema = ⟨[], value, schema⟩ ::
    if Demand.type.Met schema value then
      (inners value schema).flatMap fun inner =>
        (sites inner.value inner.schema).map fun site =>
          { site with route := inner.turn :: site.route }
    else [] := by
  rw [sites]
  simp only [List.flatMap_subtype, List.unattach_attach]

/-- The sites are what routes lead to. -/
theorem mem_sites_iff (ordered : schema.Ordered) (site : Site) : site ∈ sites value schema ↔
    pairAt value schema site.route = some (site.value, site.schema) := by
  obtain ⟨route, part, described⟩ := site
  -- The induction is on the route: the sites of a part are one turn shorter than those of the
  -- whole.
  induction route generalizing value schema with
  | nil =>
    rw [sites_eq, List.mem_cons]
    constructor
    · rintro (h | h)
      · cases h
        rfl
      · split at h
        · obtain ⟨inner, -, hsite⟩ := List.mem_flatMap.1 h
          obtain ⟨site, -, hcons⟩ := List.mem_map.1 hsite
          cases hcons
        · cases h
    · intro h
      cases h
      exact Or.inl rfl
  | cons turn rest ih =>
    rw [sites_eq, List.mem_cons, pairAt]
    by_cases hmet : Demand.type.Met schema value
    · rw [if_pos hmet, if_pos hmet, Option.bind_eq_some_iff]
      constructor
      · rintro (h | h)
        · cases h
        · obtain ⟨inner, hinner, hsite⟩ := List.mem_flatMap.1 h
          obtain ⟨site, hmem, hcons⟩ := List.mem_map.1 hsite
          cases hcons
          have hat : inner? value schema inner.turn = some (inner.value, inner.schema) :=
            (mem_inners_iff_inner? ordered).1 hinner
          exact ⟨_, hat, (ih (ordered_of_mem_inners ordered hinner)).1 hmem⟩
      · rintro ⟨⟨inside, sub⟩, hat, hpair⟩
        have hinner : ⟨turn, inside, sub⟩ ∈ inners value schema :=
          (mem_inners_iff_inner? ordered).2 hat
        have hmem : ⟨rest, part, described⟩ ∈ sites inside sub :=
          (ih (ordered_of_mem_inners ordered hinner)).2 hpair
        exact Or.inr (List.mem_flatMap.2 ⟨_, hinner, List.mem_map.2 ⟨_, hmem, rfl⟩⟩)
    · rw [if_neg hmet, if_neg hmet]
      constructor
      · rintro (h | h) <;> cases h
      · exact nofun

theorem pairwise_inners (ordered : schema.Ordered) :
    (inners value schema).Pairwise fun first second => first.turn.Before second.turn := by
  unfold inners
  split
  · split
    · rename_i properties hproperties
      have hsorted : Entries.Sorted properties := (ordered_get? ordered hproperties).1
      rw [List.pairwise_filterMap]
      refine (List.pairwise_map.1 hsorted).imp fun hlt first hfirst second hsecond => ?_
      obtain ⟨-, -, rfl⟩ := Option.map_eq_some_iff.1 hfirst
      obtain ⟨-, -, rfl⟩ := Option.map_eq_some_iff.1 hsecond
      exact .field hlt
    · exact List.Pairwise.nil
  · split
    · rw [List.pairwise_iff_getElem]
      intro i j hi hj hlt
      rw [List.getElem_mapIdx, List.getElem_mapIdx]
      exact .item hlt
    · exact List.Pairwise.nil
  · exact List.Pairwise.nil

theorem pairwise_sites (ordered : schema.Ordered) :
    (sites value schema).Pairwise fun first second => Route.Before first.route second.route := by
  induction value, schema using sites.induct with
  | case1 value schema ih =>
    rw [sites_eq]
    split
    · refine List.pairwise_cons.2 ⟨?_, List.pairwise_flatMap.2 ⟨?_, ?_⟩⟩
      · intro site hsite
        obtain ⟨inner, -, hmem⟩ := List.mem_flatMap.1 hsite
        obtain ⟨below, -, rfl⟩ := List.mem_map.1 hmem
        exact .nil
      · intro inner hinner
        rw [List.pairwise_map]
        exact (ih ⟨inner, hinner⟩ (ordered_of_mem_inners ordered hinner)).imp .cons
      · refine (pairwise_inners ordered).imp fun hbefore first hfirst second hsecond => ?_
        obtain ⟨-, -, rfl⟩ := List.mem_map.1 hfirst
        obtain ⟨-, -, rfl⟩ := List.mem_map.1 hsecond
        exact .rel hbefore
    · exact List.pairwise_singleton _ _

theorem checkInner_eq (place : String) (value : Json) (keywords : List (String × Json)) :
    checkInner place value keywords = keywords.flatMap fun keyword =>
      match value with
      | .object fields =>
        if keyword.1 = "properties" then checkProperties place fields keyword.2 else []
      | .array items =>
        if keyword.1 = "items" then
          eachItem place items fun place item => check place item keyword.2
        else []
      | _ => [] := by
  induction keywords with
  | nil => rw [checkInner, List.flatMap_nil]
  | cons keyword rest ih =>
    obtain ⟨name, content⟩ := keyword
    cases value <;> rw [checkInner, ih, List.flatMap_cons] <;> simp

theorem checkFields_eq (place : String) (fields properties : List (String × Json)) :
    checkFields place fields properties =
      (properties.filterMap fun property =>
        (Entries.get? property.1 fields).map fun field =>
          (⟨.field property.1, field, property.2⟩ : Inner)).flatMap fun inner =>
        check (place ++ inner.turn.text) inner.value inner.schema := by
  induction properties with
  | nil => rw [checkFields, List.filterMap_nil, List.flatMap_nil]
  | cons property rest ih =>
    obtain ⟨name, described⟩ := property
    rw [checkFields, ih, List.filterMap_cons]
    cases Entries.get? name fields with
    | none => rfl
    | some field =>
      have hplace : s!"{place}.{name}" = place ++ Turn.text (.field name) :=
        String.append_assoc
      rw [hplace]
      rfl

theorem eachItem_eq (place : String) (items : List Json) (described : Json) :
    (eachItem place items fun place item => check place item described) =
      (items.mapIdx fun index item => (⟨.item index, item, described⟩ : Inner)).flatMap fun inner =>
        check (place ++ inner.turn.text) inner.value inner.schema := by
  have hplace : ∀ index : Nat, s!"{place}[{index}]" = place ++ Turn.text (.item index) := by
    intro index
    change place ++ "[" ++ toString index ++ "]" = place ++ ("[" ++ toString index ++ "]")
    rw [String.append_assoc, String.append_assoc, String.append_assoc]
  unfold eachItem
  rw [List.flatMap_def, List.mapIdx_eq_zipIdx_map, List.mapIdx_eq_zipIdx_map, List.map_map]
  simp only [hplace]
  rfl

/-- What the keywords with inner schemas find is what is wrong with the described parts. -/
theorem checkInner_eq_flatMap (place : String) (value : Json) {keywords : Entries Json}
    (sorted : Entries.Sorted keywords) : checkInner place value keywords =
      (inners value (.object keywords)).flatMap fun inner =>
        check (place ++ inner.turn.text) inner.value inner.schema := by
  rw [checkInner_eq]
  cases value with
  | object fields =>
    dsimp only
    rw [Entries.flatMap_of_sorted sorted "properties" (checkProperties place fields)]
    simp only [inners, Json.get?_object]
    cases Entries.get? "properties" keywords with
    | none => rfl
    | some content =>
      cases content with
      | object properties =>
        rw [← checkFields_eq]
        simp [checkProperties]
      | _ => simp [checkProperties]
  | array items =>
    dsimp only
    rw [Entries.flatMap_of_sorted sorted "items" fun described =>
      eachItem place items fun place item => check place item described]
    simp only [inners, Json.get?_object]
    cases Entries.get? "items" keywords with
    | none => rfl
    | some described =>
      exact eachItem_eq place items described
  | _ => simp [inners]

theorem inners_of_no_keywords (hnone : ∀ name, schema.get? name = none) :
    inners value schema = [] := by
  unfold inners
  rw [hnone, hnone]
  cases value <;> rfl

/-- The check of a value reports what fails there and then what is wrong with its described
parts. -/
theorem check_eq (place : String) (value : Json) (ordered : schema.Ordered) :
    check place value schema =
      findings place ((failing schema value).map (Demand.violation schema value)) ++
        if Demand.type.Met schema value then
          (inners value schema).flatMap fun inner =>
            check (place ++ inner.turn.text) inner.value inner.schema
        else [] := by
  cases schema with
  | object keywords =>
    rw [check, map_failing_of_keywords, checkInner_eq_flatMap place value ordered.1]
    by_cases hmet : Demand.type.Met (.object keywords) value
    · have htype : typeOk keywords value = true := typeOk_iff_met.2 hmet
      rw [if_pos hmet, if_pos htype, if_pos htype]
    · have htype : ¬ typeOk keywords value = true := fun h => hmet (typeOk_iff_met.1 h)
      rw [if_neg hmet, if_neg htype, if_neg htype, List.append_nil]
  | bool admits =>
    have hinners : inners value (.bool admits) = [] := inners_of_no_keywords fun _ => rfl
    rw [hinners]
    cases admits with
    | false => simp [check, failing, demands, Demand.Met, Demand.violation, Json.get?]
    | true =>
      rw [failing_of_no_keywords]
      · simp [check, findings]
      · intro h
        cases h
      · exact fun _ => rfl
  | _ =>
    rw [failing_of_no_keywords, inners_of_no_keywords]
    · simp [check, findings]
    · exact fun _ => rfl
    · intro h
      cases h
    · exact fun _ => rfl

/-- What is wrong with a value is what fails at its sites. -/
theorem check_eq_flatMap_sites (place : String) (value : Json) (ordered : schema.Ordered) :
    check place value schema = (sites value schema).flatMap fun site =>
      findings (place ++ site.route.text)
        ((failing site.schema site.value).map (Demand.violation site.schema site.value)) := by
  -- The induction follows the described parts, whose checks start at a place one turn further on.
  induction value, schema using sites.induct generalizing place with
  | case1 value schema ih =>
    have hhere : place ++ Route.text [] = place := String.append_empty
    rw [check_eq place value ordered, sites_eq, List.flatMap_cons, hhere]
    congr 1
    split
    · rw [List.flatMap_assoc]
      refine List.flatMap_congr fun inner hinner => ?_
      rw [ih ⟨inner, hinner⟩ _ (ordered_of_mem_inners ordered hinner), List.flatMap_map]
      refine List.flatMap_congr fun site _ => ?_
      rw [String.append_assoc]
      rfl
    · rfl

theorem check_eq_nil_iff (place : String) (value : Json) (ordered : schema.Ordered) :
    check place value schema = [] ↔ Admits schema value := by
  induction value, schema using sites.induct generalizing place with
  | case1 value schema ih =>
    have hparts : ∀ inner ∈ inners value schema, ∀ place,
        check place inner.value inner.schema = [] ↔ Admits inner.schema inner.value :=
      fun inner hinner place => ih ⟨inner, hinner⟩ place (ordered_of_mem_inners ordered hinner)
    have hown : findings place ((failing schema value).map (Demand.violation schema value)) = [] ↔
        ∀ demand ∈ demands schema, demand.Met schema value := by
      rw [findings, List.map_eq_nil_iff, List.map_eq_nil_iff, failing_eq_nil_iff]
    rw [check_eq place value ordered, List.append_eq_nil_iff, hown]
    constructor
    · rintro ⟨hmet, hinside⟩
      have htype : Demand.type.Met schema value :=
        Decidable.byContradiction fun h => h (hmet .type (type_mem_demands h))
      rw [if_pos htype, List.flatMap_eq_nil_iff] at hinside
      refine .intro hmet fun turn part described hat => ?_
      have hinner : ⟨turn, part, described⟩ ∈ inners value schema :=
        (mem_inners_iff_inner? ordered).2 hat
      exact (hparts _ hinner _).1 (hinside _ hinner)
    · rintro ⟨hmet, hadmits⟩
      refine ⟨hmet, ?_⟩
      split
      · rw [List.flatMap_eq_nil_iff]
        intro inner hinner
        have hat : inner? value schema inner.turn = some (inner.value, inner.schema) :=
          (mem_inners_iff_inner? ordered).1 hinner
        exact (hparts inner hinner _).2 (hadmits _ _ _ hat)
      · rfl

/-- Validation against a schema in key order is exact. It accepts what the schema admits, and else
its messages are, for each value and schema that a route leads to, in the order of routes, one for
each demand of that schema that fails there, headed by the route. Where the type fails that is the
only one. -/
theorem violations_exact (value : Json) {schema : Json} (ordered : schema.Ordered) :
    (violations value schema = [] ↔ Admits schema value) ∧
    (∀ site, site ∈ sites value schema ↔
      pairAt value schema site.route = some (site.value, site.schema)) ∧
    ((sites value schema).Pairwise fun first second => Route.Before first.route second.route) ∧
    violations value schema = (sites value schema).flatMap fun site =>
      (failing site.schema site.value).map fun demand =>
        root ++ site.route.text ++ ": " ++ (demand.violation site.schema site.value).message := by
  refine ⟨?_, mem_sites_iff ordered, pairwise_sites ordered, ?_⟩
  · rw [violations, List.map_eq_nil_iff]
    exact check_eq_nil_iff root value ordered
  · rw [violations, check_eq_flatMap_sites root value ordered, List.map_flatMap]
    refine List.flatMap_congr fun site _ => ?_
    rw [findings, List.map_map, List.map_map]
    rfl

namespace Sample

/-- A schema for objects with an identifier and rows of integers. -/
def table : Json := .object
  [("properties", .object [("rows", .object [("items", .object [("type", .string "integer")])])]),
    ("required", .array [.string "id"]), ("type", .string "object")]

def rows : Json := .object [("rows", .array [.int 1, .string "x"])]

/-- A schema for one text. -/
def listed : Json := .object [("enum", .array [.string "a"]), ("type", .string "string")]

end Sample

theorem violations_exact_sample : Sample.table.Ordered ∧ ¬ Admits Sample.table Sample.rows ∧
    violations Sample.rows Sample.table =
      ["$: missing required property 'id'", "$.rows[1]: expected integer, got string"] := by
  have ordered : Sample.table.Ordered := by
    simp only [Sample.table, Json.Ordered, Json.OrderedItems, Json.OrderedFields, Entries.Sorted,
      Entries.keys]
    decide +kernel
  have hviolations : violations Sample.rows Sample.table =
      ["$: missing required property 'id'", "$.rows[1]: expected integer, got string"] := by
    decide +kernel
  refine ⟨ordered, fun admits => ?_, hviolations⟩
  have hnone : violations Sample.rows Sample.table = [] :=
    (violations_exact Sample.rows ordered).1.2 admits
  rw [hviolations] at hnone
  cases hnone

/-- Of a value of the wrong type that is not listed either, only the type is reported. -/
theorem enum_unreported_of_wrong_type : Sample.listed.Ordered ∧
    (demands Sample.listed).filter (fun demand => ¬ demand.Met Sample.listed (.int 1)) =
      [.type, .enum] ∧
    violations (.int 1) Sample.listed = ["$: expected string, got number"] ∧
    violations (.int 1) Sample.listed ≠ (sites (.int 1) Sample.listed).flatMap fun site =>
      ((demands site.schema).filter fun demand => ¬ demand.Met site.schema site.value).map
        fun demand =>
          root ++ site.route.text ++ ": " ++ (demand.violation site.schema site.value).message := by
  have ordered : Sample.listed.Ordered := by
    simp only [Sample.listed, Json.Ordered, Json.OrderedItems, Json.OrderedFields, Entries.Sorted,
      Entries.keys]
    decide +kernel
  refine ⟨ordered, by decide +kernel, by decide +kernel, by decide +kernel⟩

end BrickPipeline.Schema
