import BrickPipeline.Document.Basic
import BrickPipeline.Proofs.KeyOrder

/-!
Writing and reading back. Whatever was read as a config value, a pipeline or a document, from a text
or from a value in memory, is written as a value in key order from which it is read again as it was.
-/
namespace BrickPipeline

open Wire (RecordType Field Read)

namespace Wire.RecordType

variable {ι σ : Type}

/-- Taking up known fields one after the other leads from a state to another. -/
inductive Takes (record : RecordType ι σ) : List (String × ι) → σ → σ → Prop where
  | nil (state : σ) : Takes record [] state state
  | cons {name : String} {content : ι} {field : Field ι σ} {rest : List (String × ι)}
    {state next last : σ} (known : record.field? name = some field)
    (taken : field.take content state = .ok next) (more : Takes record rest next last) :
    Takes record ((name, content) :: rest) state last

namespace Takes

variable {record : RecordType ι σ}

theorem append {xs ys : List (String × ι)} {first middle last : σ}
    (hx : record.Takes xs first middle) (hy : record.Takes ys middle last) :
    record.Takes (xs ++ ys) first last := by
  induction hx with
  | nil _ => exact hy
  | cons known taken _ ih => exact .cons known taken (ih hy)

/-- Fields with different names are taken up, whatever other names were seen before. -/
theorem takeFields {fields : List (String × ι)} {state last : σ}
    (h : record.Takes fields state last) {seen : List String}
    (distinct : (Entries.keys fields).Nodup) (new : ∀ name ∈ Entries.keys fields, name ∉ seen) :
    ∃ after, record.takeFields fields seen state = .ok (after, last) ∧
      ∀ name, name ∈ Entries.keys fields ∨ name ∈ seen → name ∈ after := by
  induction h generalizing seen with
  | nil state => exact ⟨seen, rfl, fun name hm => hm.resolve_left List.not_mem_nil⟩
  | @cons name content field rest state next last known taken _ ih =>
    obtain ⟨fresh, distinctRest⟩ := List.nodup_cons.1 distinct
    have newRest : ∀ other ∈ Entries.keys rest, other ∉ name :: seen := by
      intro other hm hs
      rcases List.mem_cons.1 hs with rfl | hs
      · exact fresh hm
      · exact new other (List.mem_cons_of_mem _ hm) hs
    obtain ⟨after, ht, hafter⟩ := ih distinctRest newRest
    refine ⟨after, ?_, fun other hm => hafter other ?_⟩
    · rw [takeFields_of_take record known (new name List.mem_cons_self) taken, ht]
    · rcases hm with hm | hm
      · rcases List.mem_cons.1 hm with rfl | hm
        · exact Or.inr List.mem_cons_self
        · exact Or.inl hm
      · exact Or.inr (List.mem_cons_of_mem _ hm)

/-- A record is read from fields with different names, if all required ones are there. -/
theorem ofFields {fields : List (String × ι)} {state last : σ}
    (h : record.Takes fields state last) (distinct : (Entries.keys fields).Nodup)
    (complete : ∀ field ∈ record.fields, field.required = true →
      field.name ∈ Entries.keys fields) :
    record.ofFields state fields = .ok last := by
  have new : ∀ name ∈ Entries.keys fields, name ∉ ([] : List String) :=
    fun _ _ => List.not_mem_nil
  obtain ⟨after, ht, hafter⟩ := h.takeFields distinct new
  exact ofFields_of_takeFields record ht fun field hm hr =>
    hafter field.name (Or.inl (complete field hm hr))

end Takes
end Wire.RecordType

theorem Json.keys_fieldsToTree (fields : List (String × Json)) :
    Entries.keys (fieldsToTree fields) = Entries.keys fields := by
  induction fields with
  | nil => rfl
  | cons field rest ih =>
    obtain ⟨key, value⟩ := field
    exact congrArg (key :: ·) ih

namespace Dependency

theorem read_toJson (dependency : Dependency) :
    Dependency.read .value dependency.toJson.toTree = .ok dependency := by
  obtain ⟨integrationId, outputKey, configId⟩ := dependency
  cases configId <;> rfl

theorem list_read_toJson (dependencies : List Dependency) :
    Wire.list (Dependency.read .value) (Json.array (dependencies.map toJson)).toTree =
      .ok dependencies := by
  show (Json.itemsToTree (dependencies.map toJson)).mapM (Dependency.read .value) = _
  induction dependencies with
  | nil => rfl
  | cons dependency rest ih =>
    rw [List.map_cons, Json.itemsToTree, List.mapM_cons, read_toJson, ih]
    rfl

theorem ordered_toJson (dependency : Dependency) : dependency.toJson.Ordered := by
  have sorted : ["config", "id", "outputKey"].Pairwise (· < ·) := by decide
  obtain ⟨integrationId, outputKey, configId⟩ := dependency
  cases configId with
  | none => exact ⟨sorted.tail, trivial, trivial, trivial⟩
  | some configId => exact ⟨sorted, trivial, trivial, trivial, trivial⟩

end Dependency

namespace Document

/-- What holds of all documents that were read. -/
structure WellRead (document : Document) : Prop where
  legible : Expr.LegibleSteps document.pipeline
  ordered : Json.OrderedItems (Expr.stepsToJson document.pipeline)
  options : document.options.Ordered

theorem wellRead_of_take (origin : Wire.Origin) : ∀ field ∈ (record origin).fields,
    ∀ content state next, True → WellRead state → field.take content state = .ok next →
      WellRead next := by
  intro field hm content state next _ hs h
  simp only [record, List.mem_cons, List.not_mem_nil, or_false] at hm
  rcases hm with rfl | rfl | rfl | rfl | rfl | rfl
  case inr.inr.inl =>
    obtain ⟨pipeline, hp, rfl⟩ := Except.ok_of_map h
    exact ⟨Pipeline.legible_of_read hp, Pipeline.ordered_of_read hp, hs.options⟩
  case inr.inr.inr.inr.inr =>
    obtain ⟨options, ho, rfl⟩ := Except.ok_of_map h
    exact ⟨hs.legible, hs.ordered, Wire.ordered_of_json ho⟩
  -- No other field touches the pipeline or the options.
  all_goals
    obtain ⟨_, -, rfl⟩ := Except.ok_of_map h
    exact ⟨hs.legible, hs.ordered, hs.options⟩

theorem wellRead_of_read {origin : Wire.Origin} {tree : Json.Tree} {document : Document}
    (h : Document.read origin tree = .ok document) : WellRead document := by
  have initial : WellRead ⟨.v3, none, [], [], none, .null⟩ := ⟨trivial, trivial, trivial⟩
  unfold Document.read RecordType.read at h
  split at h
  · exact RecordType.ofFields_keeps (wellRead_of_take origin) (fun _ _ => trivial) initial h
  · exact RecordType.ofItems_keeps (wellRead_of_take origin) (fun _ _ => trivial) initial h
  · cases h

/-- The fields that a document is written with. -/
def written (document : Document) : List (String × Json) :=
  [("apiVersion", .string document.apiVersion.name)] ++
    Expr.optionalField "deploymentId" document.deploymentId .string ++
    (if document.dependencies.isEmpty then []
      else [("integrationDependencies", .array (document.dependencies.map Dependency.toJson))]) ++
    Expr.optionalField "name" document.name .string ++
    (if document.options.isNull then [] else [("options", document.options)]) ++
    [("pipeline", Pipeline.toJson document.pipeline)]

theorem keys_written (document : Document) :
    (Entries.keys document.written).Sublist
      ["apiVersion", "deploymentId", "integrationDependencies", "name", "options", "pipeline"] := by
  have hd : (Entries.keys (if document.dependencies.isEmpty then [] else
      [("integrationDependencies", Json.array (document.dependencies.map Dependency.toJson))])
        ).Sublist ["integrationDependencies"] := by
    split
    · exact List.nil_sublist _
    · exact List.Sublist.refl _
  have ho : (Entries.keys (if document.options.isNull then [] else
      [("options", document.options)])).Sublist ["options"] := by
    split
    · exact List.nil_sublist _
    · exact List.Sublist.refl _
  unfold written
  simp only [Entries.keys, List.map_append]
  exact (((((List.Sublist.refl ["apiVersion"]).append (Expr.keys_optionalField ..)).append
    hd).append (Expr.keys_optionalField ..)).append ho).append (List.Sublist.refl _)

theorem ordered_toJson {document : Document} (h : document.WellRead) : document.toJson.Ordered := by
  have sorted : ["apiVersion", "deploymentId", "integrationDependencies", "name", "options",
    "pipeline"].Pairwise (· < ·) := by decide
  have string (text : String) : (Json.string text).Ordered := trivial
  refine ⟨sorted.sublist document.keys_written, Json.orderedFields_iff.2 fun field hm => ?_⟩
  simp only [List.mem_append, List.mem_singleton] at hm
  rcases hm with ((((rfl | hm) | hm) | hm) | hm) | rfl
  · trivial
  · exact Expr.ordered_optionalField (fun text _ => string text) field hm
  · split at hm
    · cases hm
    · cases List.mem_singleton.1 hm
      refine Json.orderedItems_iff.2 fun item hi => ?_
      obtain ⟨dependency, -, rfl⟩ := List.mem_map.1 hi
      exact dependency.ordered_toJson
  · exact Expr.ordered_optionalField (fun text _ => string text) field hm
  · split at hm
    · cases hm
    · cases List.mem_singleton.1 hm
      exact h.options
  · exact h.ordered

/-! Each written field is taken up as the part of the document that it was written for; a field that
was left out stands for what a document starts with. -/

theorem takes_apiVersion (version : ApiVersion) (state : Document) :
    (record .value).Takes (Json.fieldsToTree [("apiVersion", .string version.name)]) state
      { state with apiVersion := version } := by
  refine .cons rfl ?_ (.nil _)
  cases version <;> rfl

theorem takes_deploymentId (deploymentId : Option String) {state : Document}
    (h : state.deploymentId = none) :
    (record .value).Takes
      (Json.fieldsToTree (Expr.optionalField "deploymentId" deploymentId .string)) state
      { state with deploymentId } := by
  cases deploymentId with
  | none =>
    have hs : { state with deploymentId := none } = state := by rw [← h]
    rw [hs]
    exact .nil _
  | some _ => exact .cons rfl rfl (.nil _)

theorem takes_dependencies (dependencies : List Dependency) {state : Document}
    (h : state.dependencies = []) :
    (record .value).Takes
      (Json.fieldsToTree (if dependencies.isEmpty then []
        else [("integrationDependencies", .array (dependencies.map Dependency.toJson))])) state
      { state with dependencies } := by
  cases dependencies with
  | nil =>
    have hs : { state with dependencies := [] } = state := by rw [← h]
    rw [hs]
    exact .nil _
  | cons dependency rest =>
    refine .cons rfl ?_ (.nil _)
    dsimp only
    rw [Dependency.list_read_toJson (dependency :: rest)]
    rfl

theorem takes_name (name : Option String) {state : Document} (h : state.name = none) :
    (record .value).Takes (Json.fieldsToTree (Expr.optionalField "name" name .string)) state
      { state with name } := by
  cases name with
  | none =>
    have hs : { state with name := none } = state := by rw [← h]
    rw [hs]
    exact .nil _
  | some _ => exact .cons rfl rfl (.nil _)

theorem takes_options {options : Json} (ordered : options.Ordered) {state : Document}
    (h : state.options = .null) :
    (record .value).Takes (Json.fieldsToTree (if options.isNull then [] else [("options", options)]))
      state { state with options } := by
  by_cases hn : options.isNull = true
  · have hnull : options = .null := by cases options <;> first | rfl | cases hn
    have hs : { state with options := .null } = state := by rw [← h]
    rw [hnull, hs]
    exact .nil _
  · rw [if_neg hn]
    refine .cons rfl ?_ (.nil _)
    dsimp only
    rw [Wire.json_toTree ordered]
    rfl

theorem takes_pipeline {steps : Pipeline} (ordered : Json.OrderedItems (Expr.stepsToJson steps))
    (legible : Expr.LegibleSteps steps) (state : Document) :
    (record .value).Takes (Json.fieldsToTree [("pipeline", Pipeline.toJson steps)]) state
      { state with pipeline := steps } := by
  refine .cons rfl ?_ (.nil _)
  dsimp only
  rw [Pipeline.read_toTree ordered, Expr.readStepItems_stepsToJson steps legible]
  rfl

/-- Taking up the written fields one by one rebuilds the document. -/
theorem takes_written {document : Document} (h : document.WellRead) :
    (record .value).Takes (Json.fieldsToTree document.written) ⟨.v3, none, [], [], none, .null⟩
      document := by
  unfold written
  simp only [Json.fieldsToTree_append]
  exact (((((takes_apiVersion document.apiVersion _).append
    (takes_deploymentId document.deploymentId rfl)).append
    (takes_dependencies document.dependencies rfl)).append
    (takes_name document.name rfl)).append
    (takes_options h.options rfl)).append
    (takes_pipeline h.ordered h.legible _)

theorem read_toJson {document : Document} (h : document.WellRead) :
    Document.read .value document.toJson.toTree = .ok document := by
  have distinct : (Entries.keys (Json.fieldsToTree document.written)).Nodup := by
    rw [Json.keys_fieldsToTree]
    exact document.keys_written.nodup (by decide)
  refine (takes_written h).ofFields distinct fun field hm hr => ?_
  rw [Json.keys_fieldsToTree]
  simp only [record, List.mem_cons, List.not_mem_nil, or_false] at hm
  rcases hm with rfl | rfl | rfl | rfl | rfl | rfl
  case inl => exact List.mem_cons_self
  case inr.inr.inl =>
    unfold written
    rw [Entries.keys, List.map_append]
    exact List.mem_append_right _ List.mem_cons_self
  all_goals cases hr

end Document

/-- What was read as a config value, a pipeline or a document is written, in key order, as a value
from which it is read again as it was. -/
theorem Wire.roundTrip :
    (∀ (value : Json) (read : Expr), Expr.fromJson value = .ok read →
      Expr.fromJson read.toJson = .ok read ∧ (value.Ordered → read.toJson.Ordered)) ∧
    (∀ (origin : Wire.Origin) (tree : Json.Tree) (steps : Pipeline),
      Pipeline.read origin tree = .ok steps →
        Pipeline.read .value steps.toJson.toTree = .ok steps ∧ steps.toJson.Ordered) ∧
    ∀ (origin : Wire.Origin) (tree : Json.Tree) (document : Document),
      Document.read origin tree = .ok document →
        Document.read .value document.toJson.toTree = .ok document ∧ document.toJson.Ordered := by
  refine ⟨fun value read h => ?_, fun origin tree steps h => ?_, fun origin tree document h => ?_⟩
  · exact ⟨Expr.fromJson_toJson read (Expr.legible_of_fromJson value h),
      fun ordered => Expr.ordered_of_fromJson value ordered h⟩
  · have ordered := Pipeline.ordered_of_read h
    have legible := Pipeline.legible_of_read h
    refine ⟨?_, ordered⟩
    rw [Pipeline.read_toTree ordered, Expr.readStepItems_stepsToJson steps legible]
  · have well := Document.wellRead_of_read h
    exact ⟨Document.read_toJson well, Document.ordered_toJson well⟩

/-- Arguments with a deferred value and a sub-pipeline that is closed over bindings. -/
def Sample.config : Json :=
  .object [
    ("body", .object [("__env__", .object [("@item", .number (.integer 1))]),
      ("__type__", .string "pipeline"),
      ("__value__", .array [.object [("config", .object [("value", .object
        [("__type__", .string "var"), ("__value__", .string "@item")])]),
        ("id", .string "@brick/identity")]])]),
    ("later", .object [("__type__", .string "defer"), ("__value__", .array [.null])])]

/-- A document with an unknown field, absent values that are written out, and a step in array
form. -/
def Sample.documentTree : Json.Tree :=
  .object [("pipeline", .array [.array [.string "@brick/identity", Sample.config.toTree]]),
    ("comment", .string "not read"), ("name", .null), ("options", .null),
    ("apiVersion", .string "v3")]

theorem Wire.roundTrip_sample :
    (∃ read, Expr.fromJson Sample.config = .ok read ∧ Expr.fromJson read.toJson = .ok read ∧
      read.toJson.Ordered) ∧
    ∃ document, Document.read .text Sample.documentTree = .ok document ∧
      Document.read .value document.toJson.toTree = .ok document ∧
      Entries.keys document.written = ["apiVersion", "pipeline"] := by
  obtain ⟨hvalue, -, hdocument⟩ := Wire.roundTrip
  constructor
  · have ordered : Sample.config.Ordered := Json.ordered_of_toJson? Sample.config.toTree rfl
    obtain ⟨hread, hordered⟩ := hvalue Sample.config _ rfl
    exact ⟨_, rfl, hread, hordered ordered⟩
  · exact ⟨_, rfl, (hdocument .text Sample.documentTree _ rfl).1, rfl⟩

end BrickPipeline
