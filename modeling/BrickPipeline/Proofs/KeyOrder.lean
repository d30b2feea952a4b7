import BrickPipeline.Proofs.Reading

/-!
Key order. What a tree denotes has the fields of all its objects in key order, and what is read from
such a value is written in key order again. In key order, reading a value through its tree is
reading it directly.
-/
namespace BrickPipeline

open Wire (RecordType Read)

namespace Json

theorem ordered_ofOption (text : Option String) : (ofOption text).Ordered := by
  cases text <;> trivial

mutual

theorem ordered_of_toJson? : ∀ (tree : Tree) {value : Json}, tree.toJson? = some value →
    value.Ordered
  | .null, _, h | .bool _, _, h | .number _, _, h | .string _, _, h => by
    cases h
    trivial
  | .array items, _, h => by
    obtain ⟨values, hv, hr⟩ := Option.bind_eq_some_iff.1 h
    cases hr
    exact orderedItems_of_toJson? items hv
  | .object fields, _, h => by
    obtain ⟨values, hv, hr⟩ := Option.bind_eq_some_iff.1 h
    cases hr
    have hall := orderedFields_of_toJson? fields hv
    exact ⟨Entries.sorted_ofList values,
      orderedFields_iff.2 fun field hm => hall field (Entries.mem_of_mem_ofList hm)⟩
  | .illFormed, _, h => by cases h

theorem orderedItems_of_toJson? : ∀ (items : List Tree) {values : List Json},
    Tree.itemsToJson? items = some values → OrderedItems values
  | [], _, h => by
    cases h
    trivial
  | item :: rest, _, h => by
    obtain ⟨first, hf, hr⟩ := Option.bind_eq_some_iff.1 h
    obtain ⟨others, ho, hc⟩ := Option.bind_eq_some_iff.1 hr
    cases hc
    exact ⟨ordered_of_toJson? item hf, orderedItems_of_toJson? rest ho⟩

theorem orderedFields_of_toJson? : ∀ (fields : List (String × Tree))
    {values : List (String × Json)}, Tree.fieldsToJson? fields = some values →
      ∀ value ∈ values, value.2.Ordered
  | [], _, h => by
    cases h
    nofun
  | (key, field) :: rest, _, h => by
    unfold Tree.fieldsToJson? at h
    obtain ⟨first, hf, hr⟩ := Option.bind_eq_some_iff.1 h
    obtain ⟨others, ho, hc⟩ := Option.bind_eq_some_iff.1 hr
    cases hc
    exact List.forall_mem_cons.2 ⟨ordered_of_toJson? field hf, orderedFields_of_toJson? rest ho⟩

end

theorem fieldsToTree_append (xs ys : List (String × Json)) :
    fieldsToTree (xs ++ ys) = fieldsToTree xs ++ fieldsToTree ys := by
  induction xs with
  | nil => rfl
  | cons field rest ih =>
    obtain ⟨key, value⟩ := field
    rw [List.cons_append, fieldsToTree, fieldsToTree, ih, List.cons_append]

mutual

/-- The tree of a value in key order denotes that value. -/
theorem toJson?_toTree : ∀ value : Json, value.Ordered → value.toTree.toJson? = some value
  | .null, _ | .bool _, _ | .number _, _ | .string _, _ => rfl
  | .array items, h => by
    rw [toTree, Tree.toJson?, itemsToJson?_itemsToTree items h]
    rfl
  | .object fields, h => by
    rw [toTree, Tree.toJson?, fieldsToJson?_fieldsToTree fields h.2]
    exact congrArg (some ∘ Json.object) (Entries.ofList_of_sorted h.1)

theorem itemsToJson?_itemsToTree : ∀ items : List Json, OrderedItems items →
    Tree.itemsToJson? (itemsToTree items) = some items
  | [], _ => rfl
  | item :: rest, h => by
    rw [itemsToTree, Tree.itemsToJson?, toJson?_toTree item h.1,
      itemsToJson?_itemsToTree rest h.2]
    rfl

theorem fieldsToJson?_fieldsToTree : ∀ fields : List (String × Json), OrderedFields fields →
    Tree.fieldsToJson? (fieldsToTree fields) = some fields
  | [], _ => rfl
  | (key, value) :: rest, h => by
    rw [fieldsToTree, Tree.fieldsToJson?, toJson?_toTree value h.1,
      fieldsToJson?_fieldsToTree rest h.2]
    rfl

end

end Json

namespace Wire

theorem ordered_of_json {tree : Json.Tree} {value : Json} (h : Wire.json tree = .ok value) :
    value.Ordered := by
  unfold Wire.json at h
  split at h
  · rename_i found hf
    cases h
    exact Json.ordered_of_toJson? tree hf
  · cases h

theorem json_toTree {value : Json} (h : value.Ordered) : Wire.json value.toTree = .ok value := by
  rw [Wire.json, Json.toJson?_toTree value h]

end Wire

namespace Expr

theorem keys_entriesToJson (entries : List (String × Expr)) :
    Entries.keys (entriesToJson entries) = Entries.keys entries := by
  induction entries with
  | nil => rfl
  | cons entry rest ih =>
    obtain ⟨key, value⟩ := entry
    exact congrArg (key :: ·) ih

theorem keys_of_fromEntries {fields : List (String × Json)} {entries : List (String × Expr)}
    (h : fromEntries fields = .ok entries) : Entries.keys entries = Entries.keys fields := by
  induction fields generalizing entries with
  | nil =>
    cases h
    rfl
  | cons field rest ih =>
    obtain ⟨key, value⟩ := field
    unfold fromEntries at h
    obtain ⟨first, -, hr⟩ := Except.ok_of_bind h
    obtain ⟨others, ho, hc⟩ := Except.ok_of_bind hr
    cases hc
    exact congrArg (key :: ·) (ih ho)

theorem orderedFields_entriesToJson {entries : List (String × Expr)} :
    Json.OrderedFields (entriesToJson entries) ↔ ∀ entry ∈ entries, entry.2.toJson.Ordered := by
  induction entries with
  | nil => simp [entriesToJson, Json.OrderedFields]
  | cons entry rest ih =>
    obtain ⟨key, value⟩ := entry
    simp [entriesToJson, Json.OrderedFields, ih]

/-! What an expression or a step is written as is in key order if its parts are. -/

theorem ordered_tagged (tag : String) {content : Json} (h : content.Ordered) :
    (Json.object [(typeTag, .string tag), (valueTag, content)]).Ordered := by
  have sorted : [typeTag, valueTag].Pairwise (· < ·) := by decide
  exact ⟨sorted, trivial, h, trivial⟩

theorem ordered_pipeline {steps : List Step} {environment : Option Context}
    (hs : Json.OrderedItems (stepsToJson steps))
    (he : ∀ ctx, environment = some ctx → ctx.toJson.Ordered) :
    (Expr.pipeline steps environment).toJson.Ordered := by
  have hcontent : (Json.array (stepsToJson steps)).Ordered := hs
  cases environment with
  | none => exact ordered_tagged "pipeline" hcontent
  | some ctx =>
    have sorted : [environmentTag, typeTag, valueTag].Pairwise (· < ·) := by decide
    exact ⟨sorted, he ctx rfl, trivial, hs, trivial⟩

theorem keys_optionalField {α : Type} (key : String) (value : Option α) (wire : α → Json) :
    (Entries.keys (optionalField key value wire)).Sublist [key] := by
  cases value with
  | none => exact List.nil_sublist _
  | some _ => exact List.Sublist.refl _

theorem ordered_optionalField {α : Type} {key : String} {value : Option α} {wire : α → Json}
    (h : ∀ v, value = some v → (wire v).Ordered) :
    ∀ field ∈ optionalField key value wire, field.2.Ordered := by
  cases value with
  | none => nofun
  | some v => simpa [optionalField] using h v rfl

/-- The wire form of a step is in key order if those of its arguments and its condition are. -/
theorem ordered_stepToJson {id : BrickId} {config : Entries Expr} {outputKey : Option String}
    {onError : Option OnError} {condition : Option Expr} {engine : Option Engine}
    {label : Option String} {instanceId : Option Uuid}
    (hconfig : (Expr.object config).toJson.Ordered)
    (hcondition : ∀ value, condition = some value → value.toJson.Ordered) :
    (stepToJson (.mk id config outputKey onError condition engine label instanceId)).Ordered := by
  have sorted : ["config", "id", "if", "instanceId", "label", "onError", "outputKey",
      "templateEngine"].Pairwise (· < ·) := by decide
  rw [stepToJson, conditionToJson_eq]
  refine ⟨sorted.sublist ?_, Json.orderedFields_iff.2 ?_⟩
  -- The names that are written are some of these, in this order.
  · simp only [Entries.keys, List.map_append]
    exact (((((((List.Sublist.refl ["config", "id"]).append (keys_optionalField ..)).append
      (keys_optionalField ..)).append (keys_optionalField ..)).append
      (keys_optionalField ..)).append (keys_optionalField ..)).append (keys_optionalField ..))
  · intro field hm
    simp only [List.mem_append, List.mem_cons, List.not_mem_nil, or_false] at hm
    rcases hm with ((((((rfl | rfl) | hm) | hm) | hm) | hm) | hm) | hm
    · exact hconfig
    · trivial
    · exact ordered_optionalField hcondition field hm
    case refine_2.inl.inl.inr =>
      refine ordered_optionalField (fun onError _ => ?_) field hm
      have single : ["alert"].Pairwise (· < ·) := by decide
      exact ⟨single, trivial, trivial⟩
    -- All other options are texts.
    all_goals
      refine ordered_optionalField (fun _ _ => ?_) field hm
      trivial

theorem ordered_of_environment {fields : Entries Json} (hall : ∀ field ∈ fields, field.2.Ordered)
    {environment : Option Context} (h : Expr.environment fields = .ok environment) :
    ∀ ctx, environment = some ctx → ctx.toJson.Ordered := by
  rintro ctx rfl
  unfold Expr.environment at h
  split at h
  · cases h
  · cases h
  · rename_i bindings hg
    cases h
    exact hall (environmentTag, .object bindings) (Entries.mem_of_get? hg)
  · cases h

end Expr

namespace Step

/-- Whether what was read of a step so far is written in key order. -/
def Draft.Ordered (draft : Draft) : Prop :=
  (Expr.object draft.config).toJson.Ordered ∧
    ∀ value, draft.condition = some value → value.toJson.Ordered

/-- Whether a field can only be read as something that is written in key order. -/
def Source.Ordered (source : Source) : Prop :=
  (∀ config, source.config () = .ok config → (Expr.object config).toJson.Ordered) ∧
    ∀ value, source.value () = .ok value → value.toJson.Ordered

theorem ordered_of_take (origin : Wire.Origin) : ∀ field ∈ (record origin).fields,
    ∀ content state next, Source.Ordered content → Draft.Ordered state →
      field.take content state = .ok next → Draft.Ordered next := by
  intro field hm content state next hc hs h
  simp only [record, fields, List.mem_cons, List.not_mem_nil, or_false] at hm
  rcases hm with rfl | rfl | rfl | rfl | rfl | rfl | rfl | rfl
  case inr.inl =>
    obtain ⟨config, hr, rfl⟩ := Except.ok_of_map h
    exact ⟨hc.1 config hr, hs.2⟩
  case inr.inr.inr.inr.inl =>
    obtain ⟨condition, hr, rfl⟩ := Except.ok_of_map h
    refine ⟨hs.1, ?_⟩
    rintro value rfl
    unfold Source.optionalValue at hr
    split at hr
    · cases hr
    · obtain ⟨read, hread, he⟩ := Except.ok_of_map hr
      cases he
      exact hc.2 value hread
  -- No other field touches the arguments or the condition.
  all_goals
    obtain ⟨_, -, rfl⟩ := Except.ok_of_map h
    exact hs

theorem ordered_of_finish {draft : Draft} {step : Step} (h : draft.Ordered)
    (hf : draft.finish = .ok step) : step.toJson.Ordered := by
  unfold Draft.finish at hf
  split at hf
  · cases hf
    exact Expr.ordered_stepToJson h.1 h.2
  · cases hf

theorem Draft.ordered_initial : Draft.initial.Ordered :=
  ⟨⟨List.Pairwise.nil, trivial⟩, nofun⟩

theorem ordered_of_ofFields {origin : Wire.Origin} {sources : List (String × Source)}
    {step : Step} (hs : ∀ entry ∈ sources, entry.2.Ordered)
    (h : ofFields origin sources = .ok step) : step.toJson.Ordered := by
  obtain ⟨draft, hd, hf⟩ := Except.ok_of_bind h
  exact ordered_of_finish
    (RecordType.ofFields_keeps (ordered_of_take origin) hs Draft.ordered_initial hd) hf

theorem ordered_of_ofItems {origin : Wire.Origin} {sources : List Source} {step : Step}
    (hs : ∀ source ∈ sources, source.Ordered) (h : ofItems origin sources = .ok step) :
    step.toJson.Ordered := by
  obtain ⟨draft, hd, hf⟩ := Except.ok_of_bind h
  exact ordered_of_finish
    (RecordType.ofItems_keeps (ordered_of_take origin) hs Draft.ordered_initial hd) hf

end Step

namespace Expr

theorem ordered_of_fromEntries {fields : List (String × Json)} {entries : List (String × Expr)}
    (sorted : Entries.Sorted fields) (h : fromEntries fields = .ok entries)
    (hall : ∀ entry ∈ entries, entry.2.toJson.Ordered) :
    (Expr.object entries).toJson.Ordered := by
  refine ⟨?_, orderedFields_entriesToJson.2 hall⟩
  show (Entries.keys (entriesToJson entries)).Pairwise (· < ·)
  rw [keys_entriesToJson, keys_of_fromEntries h]
  exact sorted

mutual

/-- What is read from a value in key order is written in key order. -/
theorem ordered_of_fromJson : ∀ (value : Json) {read : Expr}, value.Ordered →
    fromJson value = .ok read → read.toJson.Ordered
  | .null, _, _, h | .bool _, _, _, h | .number _, _, _, h | .string _, _, _, h => by
    cases h
    trivial
  | .array items, _, ho, h => by
    obtain ⟨read, hr, rfl⟩ := Except.ok_of_map h
    exact ordered_of_fromItems items ho hr
  | .object fields, _, ho, h => by
    unfold fromJson at h
    split at h
    · obtain ⟨read, hr, rfl⟩ := Except.ok_of_map h
      exact ordered_of_fromEntries ho.1 hr (forall_ordered_of_fromEntries fields ho.2 hr)
    · split at h
      · rename_i kind _
        exact ordered_of_fromContent kind fields (Json.orderedFields_iff.1 ho.2) fields ho.2 h
      · cases h
    · cases h

theorem ordered_of_fromItems : ∀ (items : List Json) {read : List Expr},
    Json.OrderedItems items → fromItems items = .ok read → Json.OrderedItems (itemsToJson read)
  | [], _, _, h => by
    cases h
    trivial
  | item :: rest, _, ho, h => by
    obtain ⟨first, hf, hr⟩ := Except.ok_of_bind h
    obtain ⟨others, hothers, hc⟩ := Except.ok_of_bind hr
    cases hc
    exact ⟨ordered_of_fromJson item ho.1 hf, ordered_of_fromItems rest ho.2 hothers⟩

theorem forall_ordered_of_fromEntries : ∀ (fields : List (String × Json))
    {read : List (String × Expr)}, Json.OrderedFields fields → fromEntries fields = .ok read →
      ∀ entry ∈ read, entry.2.toJson.Ordered
  | [], _, _, h => by
    cases h
    nofun
  | (key, value) :: rest, _, ho, h => by
    unfold fromEntries at h
    obtain ⟨first, hf, hr⟩ := Except.ok_of_bind h
    obtain ⟨others, hothers, hc⟩ := Except.ok_of_bind hr
    cases hc
    exact List.forall_mem_cons.2 ⟨ordered_of_fromJson value ho.1 hf,
      forall_ordered_of_fromEntries rest ho.2 hothers⟩

theorem ordered_of_fromContent (kind : Kind) (all : Entries Json)
    (hall : ∀ field ∈ all, field.2.Ordered) : ∀ (fields : List (String × Json)) {read : Expr},
      Json.OrderedFields fields → fromContent kind all fields = .ok read → read.toJson.Ordered
  | [], _, _, h => by
    unfold fromContent withoutContent at h
    cases kind with
    | pipeline =>
      obtain ⟨environment, he, rfl⟩ := Except.ok_of_map h
      exact ordered_pipeline trivial (ordered_of_environment hall he)
    | _ =>
      cases h
      exact ordered_tagged _ trivial
  | (key, content) :: rest, _, ho, h => by
    by_cases hk : key = valueTag
    · cases kind with
      | pipeline =>
        obtain ⟨steps, environment, rfl, he, rfl | hs⟩ := ok_of_pipelineContent hk h
        · exact ordered_pipeline trivial (ordered_of_environment hall he)
        · exact ordered_pipeline (ordered_of_readSteps content ho.1 hs)
            (ordered_of_environment hall he)
      | defer =>
        unfold fromContent at h
        rw [if_pos hk] at h
        obtain ⟨inner, hi, rfl⟩ := Except.ok_of_map h
        exact ordered_tagged "defer" (ordered_of_fromJson content ho.1 hi)
      | _ =>
        unfold fromContent at h
        rw [if_pos hk] at h
        obtain ⟨source, -, rfl⟩ := Except.ok_of_map h
        exact ordered_tagged _ (Json.ordered_ofOption source)
    · unfold fromContent at h
      rw [if_neg hk] at h
      exact ordered_of_fromContent kind all hall rest ho.2 h

theorem ordered_of_readSteps : ∀ (content : Json) {read : List Step}, content.Ordered →
    readSteps content = .ok read → Json.OrderedItems (stepsToJson read)
  | .array items, _, ho, h => ordered_of_readStepItems items ho h
  | .null, _, _, h | .bool _, _, _, h | .number _, _, _, h | .string _, _, _, h
  | .object _, _, _, h => by cases h

theorem ordered_of_readStepItems : ∀ (items : List Json) {read : List Step},
    Json.OrderedItems items → readStepItems items = .ok read →
      Json.OrderedItems (stepsToJson read)
  | [], _, _, h => by
    cases h
    trivial
  | item :: rest, _, ho, h => by
    obtain ⟨first, hf, hr⟩ := Except.ok_of_bind h
    obtain ⟨others, hothers, hc⟩ := Except.ok_of_bind hr
    cases hc
    exact ⟨ordered_of_readStep item ho.1 hf, ordered_of_readStepItems rest ho.2 hothers⟩

theorem ordered_of_readStep : ∀ (value : Json) {read : Step}, value.Ordered →
    readStep value = .ok read → read.toJson.Ordered
  | .object fields, _, ho, h => Step.ordered_of_ofFields (ordered_fieldSources fields ho.2) h
  | .array items, _, ho, h => Step.ordered_of_ofItems (ordered_itemSources items ho) h
  | .null, _, _, h | .bool _, _, _, h | .number _, _, _, h | .string _, _, _, h => by cases h

theorem ordered_fieldSources : ∀ fields : List (String × Json), Json.OrderedFields fields →
    ∀ entry ∈ fieldSources fields, entry.2.Ordered
  | [], _, _, hm => by cases hm
  | (key, value) :: rest, ho, entry, hm => by
    unfold fieldSources at hm
    rcases List.mem_cons.1 hm with rfl | hm
    · exact ⟨fun _ hc => ordered_of_readConfig value ho.1 hc,
        fun _ hv => ordered_of_fromJson value ho.1 (ok_of_refused hv)⟩
    · exact ordered_fieldSources rest ho.2 entry hm

theorem ordered_itemSources : ∀ items : List Json, Json.OrderedItems items →
    ∀ source ∈ itemSources items, source.Ordered
  | [], _, _, hm => by cases hm
  | value :: rest, ho, source, hm => by
    unfold itemSources at hm
    rcases List.mem_cons.1 hm with rfl | hm
    · exact ⟨fun _ hc => ordered_of_readConfig value ho.1 hc,
        fun _ hv => ordered_of_fromJson value ho.1 (ok_of_refused hv)⟩
    · exact ordered_itemSources rest ho.2 source hm

theorem ordered_of_readConfig : ∀ (value : Json) {read : Entries Expr}, value.Ordered →
    readConfig value = .ok read → (Expr.object read).toJson.Ordered
  | .object fields, _, ho, h =>
    ordered_of_fromEntries ho.1 (ok_of_refused h)
      (forall_ordered_of_fromEntries fields ho.2 (ok_of_refused h))
  | .null, _, _, h | .bool _, _, _, h | .number _, _, _, h | .string _, _, _, h
  | .array _, _, _, h => by cases h

end

/-! In key order, reading a value through its tree is reading it directly. -/

theorem mapM_fieldsToTree (fields : List (String × Json)) (h : Json.OrderedFields fields) :
    (Json.fieldsToTree fields).mapM (fun (key, tree) => do
      return (key, ← refused (fromJson (← Wire.json tree)))) = refused (fromEntries fields) := by
  induction fields with
  | nil => rfl
  | cons field rest ih =>
    obtain ⟨key, value⟩ := field
    rw [Json.fieldsToTree, List.mapM_cons, ih h.2]
    dsimp only
    rw [Wire.json_toTree h.1, fromEntries]
    show ((refused (fromJson value) >>= fun read => pure (key, read)) >>= fun entry =>
      refused (fromEntries rest) >>= fun others => pure (entry :: others)) = _
    cases fromJson value with
    | error error => rfl
    | ok read =>
      cases fromEntries rest with
      | error error => rfl
      | ok others => rfl

end Expr

namespace Step

open BrickPipeline.Expr

theorem Source.ofTree_toTree {value : Json} (h : value.Ordered) :
    Source.ofTree value.toTree = ⟨fun _ => value.toTree, fun _ => readConfig value,
      fun _ => refused (fromJson value)⟩ := by
  have hvalue : (Source.ofTree value.toTree).value = fun _ => refused (fromJson value) := by
    funext _
    show (Wire.json value.toTree >>= fun read => refused (fromJson read)) = _
    rw [Wire.json_toTree h]
    rfl
  have hconfig : (Source.ofTree value.toTree).config = fun _ => readConfig value := by
    funext _
    cases value with
    | object fields =>
      show ((Json.fieldsToTree fields).mapM (fun (key, tree) => do
          return (key, ← refused (fromJson (← Wire.json tree)))) >>=
        fun entries => pure (Entries.ofList entries)) = refused (fromEntries fields)
      rw [mapM_fieldsToTree fields h.2]
      cases hf : fromEntries fields with
      | error error => rfl
      | ok entries =>
        have sorted : Entries.Sorted entries := by
          show (Entries.keys entries).Pairwise (· < ·)
          rw [keys_of_fromEntries hf]
          exact h.1
        exact congrArg Except.ok (Entries.ofList_of_sorted sorted)
    | _ => rfl
  calc Source.ofTree value.toTree
    _ = ⟨fun _ => value.toTree, (Source.ofTree value.toTree).config,
          (Source.ofTree value.toTree).value⟩ := rfl
    _ = _ := by rw [hconfig, hvalue]

theorem map_fieldsToTree (fields : List (String × Json)) (h : Json.OrderedFields fields) :
    (Json.fieldsToTree fields).map (fun (key, tree) => (key, Source.ofTree tree)) =
      fieldSources fields := by
  induction fields with
  | nil => rfl
  | cons field rest ih =>
    obtain ⟨key, value⟩ := field
    rw [Json.fieldsToTree, List.map_cons, ih h.2]
    dsimp only
    rw [Source.ofTree_toTree h.1, fieldSources]

theorem map_itemsToTree (items : List Json) (h : Json.OrderedItems items) :
    (Json.itemsToTree items).map Source.ofTree = itemSources items := by
  induction items with
  | nil => rfl
  | cons item rest ih =>
    rw [Json.itemsToTree, List.map_cons, ih h.2, Source.ofTree_toTree h.1, itemSources]

theorem read_toTree {value : Json} (h : value.Ordered) :
    Step.read .value value.toTree = readStep value := by
  cases value with
  | object fields =>
    rw [Json.toTree, Step.read, map_fieldsToTree fields h.2, readStep]
  | array items =>
    rw [Json.toTree, Step.read, map_itemsToTree items h, readStep]
  | _ => rfl

end Step

theorem Pipeline.read_toTree {steps : Pipeline} (h : Json.OrderedItems (Expr.stepsToJson steps)) :
    Pipeline.read .value steps.toJson.toTree =
      Expr.readStepItems (Expr.stepsToJson steps) := by
  show (Json.itemsToTree (Expr.stepsToJson steps)).mapM (Step.read .value) = _
  induction steps with
  | nil => rfl
  | cons step rest ih =>
    rw [Expr.stepsToJson, Json.itemsToTree, List.mapM_cons, Step.read_toTree h.1, ih h.2,
      Expr.readStepItems]

/-- A step that was read from a tree is written in key order. -/
theorem Step.Source.ordered_ofTree (tree : Json.Tree) : (Source.ofTree tree).Ordered := by
  constructor
  · intro config h
    unfold Source.ofTree at h
    dsimp only at h
    split at h
    · obtain ⟨entries, he, hc⟩ := Except.ok_of_bind h
      cases hc
      have hall : ∀ entry ∈ entries, entry.2.toJson.Ordered := by
        refine forall_of_mapM (fun x y hxy => ?_) he
        obtain ⟨value, hv, hr⟩ := Except.ok_of_bind hxy
        obtain ⟨read, hread, hy⟩ := Except.ok_of_bind hr
        cases hy
        exact Expr.ordered_of_fromJson value (Wire.ordered_of_json hv) (Expr.ok_of_refused hread)
      refine ⟨?_, Expr.orderedFields_entriesToJson.2 fun entry hm =>
        hall entry (Entries.mem_of_mem_ofList hm)⟩
      show (Entries.keys (Expr.entriesToJson (Entries.ofList entries))).Pairwise (· < ·)
      rw [Expr.keys_entriesToJson]
      exact Entries.sorted_ofList entries
    · cases h
  · intro read h
    obtain ⟨value, hv, hr⟩ := Except.ok_of_bind h
    exact Expr.ordered_of_fromJson value (Wire.ordered_of_json hv) (Expr.ok_of_refused hr)

theorem Step.ordered_of_read {origin : Wire.Origin} {tree : Json.Tree} {step : Step}
    (h : Step.read origin tree = .ok step) : step.toJson.Ordered := by
  unfold Step.read at h
  split at h
  · refine ordered_of_ofFields (fun entry hm => ?_) h
    obtain ⟨field, -, rfl⟩ := List.mem_map.1 hm
    exact Source.ordered_ofTree field.2
  · refine ordered_of_ofItems (fun source hm => ?_) h
    obtain ⟨item, -, rfl⟩ := List.mem_map.1 hm
    exact Source.ordered_ofTree item
  · cases h

/-- A pipeline that was read from a tree is written in key order. -/
theorem Pipeline.ordered_of_read {origin : Wire.Origin} {tree : Json.Tree} {steps : Pipeline}
    (h : Pipeline.read origin tree = .ok steps) : Json.OrderedItems (Expr.stepsToJson steps) := by
  have hall : ∀ step ∈ steps, step.toJson.Ordered := by
    unfold Pipeline.read Wire.list at h
    split at h
    · exact forall_of_mapM (fun _ _ => Step.ordered_of_read) h
    · cases h
  clear h
  induction steps with
  | nil => trivial
  | cons step rest ih =>
    exact ⟨hall _ List.mem_cons_self, ih fun s hm => hall s (List.mem_cons_of_mem _ hm)⟩

end BrickPipeline
