import BrickPipeline.Expr.Wire

/-!
The wire form of config values. What was read from JSON is legible, and legible values, and the
sub-pipelines in them, are read back from their wire form as they were.
-/
namespace BrickPipeline

open Wire (RecordType Field Read)

theorem Except.ok_of_bind {ε α β : Type} {first : Except ε α} {next : α → Except ε β} {result : β}
    (h : first >>= next = .ok result) : ∃ value, first = .ok value ∧ next value = .ok result := by
  cases first with
  | error _ => cases h
  | ok value => exact ⟨value, rfl, h⟩

theorem Except.ok_of_map {ε α β : Type} {first : Except ε α} {f : α → β} {result : β}
    (h : f <$> first = .ok result) : ∃ value, first = .ok value ∧ f value = result := by
  cases first with
  | error _ => cases h
  | ok value => exact ⟨value, rfl, Except.ok.inj h⟩

theorem Except.ok_of_toOption {ε α : Type} {result : Except ε α} {value : α}
    (h : result.toOption = some value) : result = .ok value := by
  cases result with
  | error _ => cases h
  | ok _ => exact congrArg Except.ok (Option.some.inj h)

namespace Wire.RecordType

variable {ι σ : Type} (record : RecordType ι σ)

theorem takeFields_of_take {name : String} {content : ι} {field : Field ι σ} {seen : List String}
    {state next : σ} (hf : record.field? name = some field) (hs : name ∉ seen)
    (ht : field.take content state = .ok next) (rest : List (String × ι)) :
    record.takeFields ((name, content) :: rest) seen state =
      record.takeFields rest (name :: seen) next := by
  have hc : seen.contains name = false := by simpa using hs
  simp only [takeFields, hf, hc, ht]
  rfl

/-- A field that was taken up could be. -/
theorem exists_take_of_takeFields {name : String} {content : ι} {field : Field ι σ}
    {seen after : List String} {state last : σ} {rest : List (String × ι)}
    (h : record.takeFields ((name, content) :: rest) seen state = .ok (after, last))
    (hf : record.field? name = some field) :
    ∃ next, field.take content state = .ok next ∧
      record.takeFields rest (name :: seen) next = .ok (after, last) := by
  unfold takeFields at h
  rw [hf] at h
  dsimp only at h
  split at h
  · cases h
  · exact Except.ok_of_bind h

theorem ofFields_of_takeFields {initial state : σ} {fields : List (String × ι)}
    {seen : List String} (ht : record.takeFields fields [] initial = .ok (seen, state))
    (hr : ∀ field ∈ record.fields, field.required = true → field.name ∈ seen) :
    record.ofFields initial fields = .ok state := by
  have hf : record.fields.find? (fun field => field.required && !seen.contains field.name) =
      none := by
    rw [List.find?_eq_none]
    intro field hm
    have h := hr field hm
    cases hq : field.required <;> simp_all
  simp only [ofFields, ht, bind, Except.bind, hf]

end Wire.RecordType

namespace Wire

theorem brickId_text (id : BrickId) : brickId (.string id.text) = .ok id := by
  have hparse : BrickId.parse id.text = .ok id := by rw [BrickId.parse, BrickId.parse?_text]
  show (BrickId.parse id.text).mapError _ = .ok id
  rw [hparse]
  rfl

theorem uuid_text (id : Uuid) : uuid (.string id.text) = .ok id := by
  rw [uuid, Uuid.parse?_text]

theorem optional_uuid_text (id : Uuid) : optional uuid (.string id.text) = .ok (some id) := by
  show some <$> uuid (.string id.text) = .ok (some id)
  rw [uuid_text]
  rfl

theorem optional_variant_engine (engine : Engine) :
    optional (variant .value Engine.known) (.string engine.name) = .ok (some engine) := by
  cases engine <;> rfl

end Wire

namespace Expr

mutual

/-- Whether a config value could have been read: its literals are no containers, and none of its
objects looks like an expression. -/
def Legible : Expr → Prop
  | .literal (.array _) | .literal (.object _) => False
  | .literal _ | .template .. | .var _ => True
  | .pipeline steps _ => LegibleSteps steps
  | .defer inner => Legible inner
  | .array items => LegibleItems items
  | .object entries => Entries.get? typeTag entries = none ∧ LegibleEntries entries

def LegibleItems : List Expr → Prop
  | [] => True
  | item :: rest => Legible item ∧ LegibleItems rest

def LegibleEntries : List (String × Expr) → Prop
  | [] => True
  | (_, value) :: rest => Legible value ∧ LegibleEntries rest

/-- A condition that is null counts as none. -/
def LegibleCondition : Option Expr → Prop
  | none => True
  | some condition => condition ≠ .literal .null ∧ Legible condition

def LegibleSteps : List Step → Prop
  | [] => True
  | step :: rest => LegibleStep step ∧ LegibleSteps rest

def LegibleStep : Step → Prop
  | .mk _ config _ _ condition _ _ _ => LegibleEntries config ∧ LegibleCondition condition

end

theorem ok_of_refused {α : Type} {result : Except Error α} {value : α}
    (h : refused result = .ok value) : result = .ok value := by
  cases result with
  | error _ => cases h
  | ok found => cases h; rfl

theorem ok_of_invalidPipeline {α : Type} {result : Read α} {value : α}
    (h : invalidPipeline result = .ok value) : result = .ok value := by
  cases result with
  | error _ => cases h
  | ok found => cases h; rfl

theorem Kind.ofTag?_tag (kind : Kind) : Kind.ofTag? kind.tag = some kind := by
  cases kind with
  | template engine => cases engine <;> decide
  | _ => decide

theorem fromJson_tagged {fields : Entries Json} (kind : Kind)
    (h : Entries.get? typeTag fields = some (.string kind.tag)) :
    fromJson (.object fields) = fromContent kind fields fields := by
  simp only [fromJson, h, Kind.ofTag?_tag]

theorem toJson_ne_null {value : Expr} (h : value ≠ .literal .null) : value.toJson ≠ .null := by
  cases value with
  | literal value =>
    intro hv
    exact h (congrArg Expr.literal hv)
  | _ => exact nofun

theorem get?_entriesToJson (key : String) (entries : List (String × Expr)) :
    Entries.get? key (entriesToJson entries) = (Entries.get? key entries).map toJson := by
  induction entries with
  | nil => rfl
  | cons entry rest ih =>
    obtain ⟨k, value⟩ := entry
    rw [entriesToJson, Entries.get?_cons, Entries.get?_cons, ih]
    split <;> rfl

theorem environment_optionalField (environment : Option Context) (fields : Entries Json)
    (h : Entries.get? environmentTag fields = none) :
    Expr.environment (optionalField environmentTag environment Context.toJson ++ fields) =
      .ok environment := by
  unfold Expr.environment
  cases environment with
  | none => rw [optionalField, List.nil_append, h]
  | some ctx => rfl

theorem fromContent_pipeline (all : Entries Json) (environment : Option Context) (tag : Json)
    (steps : List Json) :
    fromContent .pipeline all (optionalField environmentTag environment Context.toJson ++
        [(typeTag, tag), (valueTag, .array steps)]) =
      (do
        let steps ← invalidPipeline (readStepItems steps)
        return .pipeline steps (← Expr.environment all)) := by
  cases environment <;>
    simp [optionalField, fromContent, typeTag, valueTag, environmentTag, Json.isNull, readSteps]

theorem fieldSources_append (xs ys : List (String × Json)) :
    fieldSources (xs ++ ys) = fieldSources xs ++ fieldSources ys := by
  induction xs with
  | nil => rfl
  | cons field rest ih =>
    obtain ⟨key, value⟩ := field
    rw [List.cons_append, fieldSources, fieldSources, ih, List.cons_append]

theorem optionalValue_toJson {value read : Expr} (hn : value ≠ .literal .null)
    (hv : fromJson value.toJson = .ok read) :
    Step.Source.optionalValue ⟨fun _ => value.toJson.toTree, fun _ => readConfig value.toJson,
      fun _ => refused (fromJson value.toJson)⟩ = .ok (some read) := by
  have hj := toJson_ne_null hn
  unfold Step.Source.optionalValue
  rw [hv]
  cases h : value.toJson with
  | null => exact absurd h hj
  | _ => rfl

/-- A field that stores what it reads. -/
private theorem take_of_eq {α : Type} {content : Read α} {value : α} (h : content = .ok value)
    (store : α → Step.Draft) :
    (content >>= fun read => pure (store read)) = .ok (store value) := by
  rw [h]
  rfl

/-- An optional field is taken up if it is there and no field before it has its name. -/
private theorem takeFields_optionalField {α : Type} (key : String) (value : Option α)
    (wire : α → Json) {field : Field Step.Source Step.Draft} {seen earlier : List String}
    (draft next : Step.Draft) (rest : List (String × Step.Source)) (hid : "id" ∈ seen)
    (hs : seen ⊆ earlier) (hf : (Step.record .value).field? key = some field)
    (hk : key ∉ earlier) (hn : value = none → next = draft)
    (ht : ∀ v, value = some v →
      field.take ⟨fun _ => (wire v).toTree, fun _ => readConfig (wire v),
        fun _ => refused (fromJson (wire v))⟩ draft = .ok next) :
    ∃ after, "id" ∈ after ∧ after ⊆ key :: earlier ∧
      (Step.record .value).takeFields (fieldSources (optionalField key value wire) ++ rest) seen
          draft =
        (Step.record .value).takeFields rest after next := by
  cases value with
  | none =>
    refine ⟨seen, hid, List.subset_cons_of_subset key hs, ?_⟩
    rw [hn rfl]
    rfl
  | some v =>
    refine ⟨key :: seen, List.mem_cons_of_mem _ hid, List.cons_subset_cons key hs, ?_⟩
    rw [optionalField, fieldSources, fieldSources, List.cons_append, List.nil_append,
      RecordType.takeFields_of_take _ hf (fun hm => hk (hs hm)) (ht v rfl)]

/-- What is read back of the condition of a step; null is read as none. -/
def rereadCondition : Option Expr → Read (Option Expr)
  | none => .ok none
  | some value => Step.Source.optionalValue ⟨fun _ => value.toJson.toTree,
      fun _ => readConfig value.toJson, fun _ => refused (fromJson value.toJson)⟩

/-- The fields of a step are taken up one after the other; what was seen so far is among the names
that come before. -/
private theorem takeFields_step {config read : Entries Expr} {condition reread : Option Expr}
    (id : BrickId) (outputKey : Option String) (onError : Option OnError) (engine : Option Engine)
    (label : Option String) (instanceId : Option Uuid)
    (hconfig : fromEntries (entriesToJson config) = .ok read)
    (hcondition : rereadCondition condition = .ok reread) :
    ∃ seen, "id" ∈ seen ∧
      (Step.record .value).takeFields (fieldSources
        ([("config", .object (entriesToJson config)), ("id", .string id.text)] ++
          optionalField "if" condition toJson ++
          optionalField "instanceId" instanceId (.string ·.text) ++
          optionalField "label" label .string ++
          optionalField "onError" onError OnError.toJson ++
          optionalField "outputKey" outputKey .string ++
          optionalField "templateEngine" engine (.string ·.name))) [] .initial =
        .ok (seen,
          ⟨some id, read, outputKey, onError, reread, engine, label, instanceId⟩) := by
  simp only [List.append_assoc, fieldSources_append, fieldSources, List.cons_append,
    List.nil_append]
  have hconf : readConfig (.object (entriesToJson config)) = .ok read := by
    rw [readConfig, hconfig]
    rfl
  rw [RecordType.takeFields_of_take _ rfl List.not_mem_nil
    (take_of_eq hconf fun config => ⟨none, config, none, none, none, none, none, none⟩)]
  rw [RecordType.takeFields_of_take _ rfl (by decide)
    (take_of_eq (Wire.brickId_text id) fun id =>
      ⟨some id, read, none, none, none, none, none, none⟩)]
  obtain ⟨s₁, i₁, h₁, e₁⟩ := takeFields_optionalField "if" condition toJson
    ⟨some id, read, none, none, none, none, none, none⟩
    ⟨some id, read, none, none, reread, none, none, none⟩ _ List.mem_cons_self
    (List.Subset.refl ["id", "config"]) rfl (by decide)
    (fun h => by
      subst h
      cases hcondition
      rfl)
    (fun v h => by
      subst h
      exact take_of_eq hcondition fun condition =>
        ⟨some id, read, none, none, condition, none, none, none⟩)
  obtain ⟨s₂, i₂, h₂, e₂⟩ := takeFields_optionalField "instanceId" instanceId (.string ·.text)
    ⟨some id, read, none, none, reread, none, none, none⟩
    ⟨some id, read, none, none, reread, none, none, instanceId⟩ _ i₁ h₁ rfl (by decide)
    (fun h => by rw [h])
    (fun v h => by
      subst h
      exact take_of_eq (Wire.optional_uuid_text v) fun instanceId =>
        ⟨some id, read, none, none, reread, none, none, instanceId⟩)
  obtain ⟨s₃, i₃, h₃, e₃⟩ := takeFields_optionalField "label" label .string
    ⟨some id, read, none, none, reread, none, none, instanceId⟩
    ⟨some id, read, none, none, reread, none, label, instanceId⟩ _ i₂ h₂ rfl (by decide)
    (fun h => by rw [h]) (fun v h => by rw [h]; rfl)
  obtain ⟨s₄, i₄, h₄, e₄⟩ := takeFields_optionalField "onError" onError OnError.toJson
    ⟨some id, read, none, none, reread, none, label, instanceId⟩
    ⟨some id, read, none, onError, reread, none, label, instanceId⟩ _ i₃ h₃ rfl (by decide)
    (fun h => by rw [h]) (fun v h => by rw [h]; rfl)
  obtain ⟨s₅, i₅, h₅, e₅⟩ := takeFields_optionalField "outputKey" outputKey .string
    ⟨some id, read, none, onError, reread, none, label, instanceId⟩
    ⟨some id, read, outputKey, onError, reread, none, label, instanceId⟩ _ i₄ h₄ rfl
    (by decide) (fun h => by rw [h]) (fun v h => by rw [h]; rfl)
  obtain ⟨s₆, i₆, -, e₆⟩ := takeFields_optionalField "templateEngine" engine (.string ·.name)
    ⟨some id, read, outputKey, onError, reread, none, label, instanceId⟩
    ⟨some id, read, outputKey, onError, reread, engine, label, instanceId⟩ [] i₅ h₅ rfl
    (by decide) (fun h => by rw [h])
    (fun v h => by
      subst h
      exact take_of_eq (Wire.optional_variant_engine v) fun engine =>
        ⟨some id, read, outputKey, onError, reread, engine, label, instanceId⟩)
  rw [List.append_nil] at e₆
  rw [e₁, e₂, e₃, e₄, e₅, e₆]
  exact ⟨s₆, i₆, rfl⟩

theorem conditionToJson_eq (condition : Option Expr) :
    conditionToJson condition = optionalField "if" condition toJson := by
  cases condition <;> rfl

/-- A step is read back with its config and its condition read back. -/
theorem readStep_stepToJson_mk {config read : Entries Expr} {condition reread : Option Expr}
    (id : BrickId) (outputKey : Option String) (onError : Option OnError) (engine : Option Engine)
    (label : Option String) (instanceId : Option Uuid)
    (hconfig : fromEntries (entriesToJson config) = .ok read)
    (hcondition : rereadCondition condition = .ok reread) :
    readStep (stepToJson (.mk id config outputKey onError condition engine label instanceId)) =
      .ok (.mk id read outputKey onError reread engine label instanceId) := by
  obtain ⟨seen, hid, ht⟩ :=
    takeFields_step id outputKey onError engine label instanceId hconfig hcondition
  have hr : ∀ field ∈ (Step.record .value).fields, field.required = true → field.name ∈ seen := by
    simp [Step.record, Step.fields, hid]
  rw [stepToJson, conditionToJson_eq, readStep, Step.ofFields,
    RecordType.ofFields_of_takeFields _ ht hr]
  rfl

/-- If a step is read back at all, its config and its condition are, and nothing else changes. -/
theorem exists_of_readStep_stepToJson {id : BrickId} {config : Entries Expr}
    {outputKey : Option String} {onError : Option OnError} {condition : Option Expr}
    {engine : Option Engine} {label : Option String} {instanceId : Option Uuid} {step : Step}
    (h : readStep (stepToJson (.mk id config outputKey onError condition engine label instanceId)) =
      .ok step) :
    ∃ read reread, fromEntries (entriesToJson config) = .ok read ∧
      step = .mk id read outputKey onError reread engine label instanceId := by
  have hparts : (∃ read, fromEntries (entriesToJson config) = .ok read) ∧
      ∃ reread, rereadCondition condition = .ok reread := by
    rw [stepToJson, conditionToJson_eq, readStep] at h
    obtain ⟨draft, hd, -⟩ := Except.ok_of_bind h
    obtain ⟨⟨seen, last⟩, ht, -⟩ := Except.ok_of_bind hd
    simp only [List.append_assoc, fieldSources_append, fieldSources, List.cons_append,
      List.nil_append] at ht
    obtain ⟨_, hconfig, ht⟩ := RecordType.exists_take_of_takeFields _ ht rfl
    obtain ⟨_, -, ht⟩ := RecordType.exists_take_of_takeFields _ ht rfl
    constructor
    · obtain ⟨read, hr, -⟩ := Except.ok_of_bind hconfig
      exact ⟨read, ok_of_refused hr⟩
    · cases condition with
      | none => exact ⟨none, rfl⟩
      | some value =>
        obtain ⟨_, hcondition, -⟩ := RecordType.exists_take_of_takeFields _ ht rfl
        obtain ⟨reread, hr, -⟩ := Except.ok_of_bind hcondition
        exact ⟨reread, hr⟩
  obtain ⟨⟨read, hconfig⟩, reread, hcondition⟩ := hparts
  rw [readStep_stepToJson_mk id outputKey onError engine label instanceId hconfig hcondition] at h
  cases h
  exact ⟨read, reread, hconfig, rfl⟩

/-- A pipeline is read back with its steps read back and its environment as it was. -/
theorem fromJson_pipeline (steps : List Step) (environment : Option Context) :
    fromJson (Expr.pipeline steps environment).toJson =
      (do
        let read ← invalidPipeline (readStepItems (stepsToJson steps))
        return .pipeline read environment) := by
  have he := environment_optionalField environment
    [(typeTag, .string "pipeline"), (valueTag, .array (stepsToJson steps))] rfl
  have ht : Entries.get? typeTag (optionalField environmentTag environment Context.toJson ++
      [(typeTag, .string "pipeline"), (valueTag, .array (stepsToJson steps))]) =
      some (.string Kind.pipeline.tag) := by
    cases environment <;> rfl
  rw [toJson, fromJson_tagged .pipeline ht, fromContent_pipeline, he]
  rfl

mutual

/-- A legible value is read back from its wire form. -/
theorem fromJson_toJson : ∀ value, Legible value → fromJson value.toJson = .ok value
  | .literal value, h => by
    cases value with
    | array _ => exact h.elim
    | object _ => exact h.elim
    | _ => rfl
  | .template engine source, _ => by
    rw [toJson, fromJson_tagged (.template engine) rfl]
    cases source <;> rfl
  | .var path, _ => by
    rw [toJson, fromJson_tagged .var rfl]
    cases path <;> rfl
  | .pipeline steps environment, h => by
    rw [fromJson_pipeline, readStepItems_stepsToJson steps h]
    rfl
  | .defer inner, h => by
    have hi := fromJson_toJson inner h
    have hc : ∀ all : Entries Json, fromContent .defer all
        [(typeTag, .string "defer"), (valueTag, inner.toJson)] = .defer <$> fromJson inner.toJson :=
      fun _ => rfl
    rw [toJson, fromJson_tagged .defer rfl, hc, hi]
    rfl
  | .array items, h => by
    have hi := fromItems_itemsToJson items h
    rw [toJson, fromJson, hi]
    rfl
  | .object entries, h => by
    have hi := fromEntries_entriesToJson entries h.2
    have ht : Entries.get? typeTag (entriesToJson entries) = none := by
      rw [get?_entriesToJson, h.1]
      rfl
    simp only [toJson, fromJson, ht, hi]
    rfl

theorem fromItems_itemsToJson : ∀ items, LegibleItems items →
    fromItems (itemsToJson items) = .ok items
  | [], _ => rfl
  | item :: rest, h => by
    rw [itemsToJson, fromItems, fromJson_toJson item h.1, fromItems_itemsToJson rest h.2]
    rfl

theorem fromEntries_entriesToJson : ∀ entries, LegibleEntries entries →
    fromEntries (entriesToJson entries) = .ok entries
  | [], _ => rfl
  | (key, value) :: rest, h => by
    rw [entriesToJson, fromEntries, fromJson_toJson value h.1, fromEntries_entriesToJson rest h.2]
    rfl

theorem rereadCondition_eq : ∀ condition, LegibleCondition condition →
    rereadCondition condition = .ok condition
  | none, _ => rfl
  | some condition, h => optionalValue_toJson h.1 (fromJson_toJson condition h.2)

theorem readStepItems_stepsToJson : ∀ steps, LegibleSteps steps →
    readStepItems (stepsToJson steps) = .ok steps
  | [], _ => rfl
  | step :: rest, h => by
    rw [stepsToJson, readStepItems, readStep_stepToJson step h.1,
      readStepItems_stepsToJson rest h.2]
    rfl

theorem readStep_stepToJson : ∀ step, LegibleStep step → readStep (stepToJson step) = .ok step
  | .mk id config outputKey onError condition engine label instanceId, h =>
    readStep_stepToJson_mk id outputKey onError engine label instanceId
      (fromEntries_entriesToJson config h.1) (rereadCondition_eq condition h.2)

end

/-- A pipeline that is read back is one, of the steps that are read back. -/
theorem pipeline_of_fromJson {steps : List Step} {environment : Option Context} {value : Expr}
    (h : fromJson (Expr.pipeline steps environment).toJson = .ok value) :
    ∃ read, readStepItems (stepsToJson steps) = .ok read ∧ value = .pipeline read environment := by
  rw [fromJson_pipeline] at h
  obtain ⟨read, hr, hv⟩ := Except.ok_of_bind h
  cases hv
  exact ⟨read, ok_of_invalidPipeline hr, rfl⟩

/-- Every step that is read back is one of those that were written. -/
theorem exists_of_readStepItems {steps read : List Step}
    (h : readStepItems (stepsToJson steps) = .ok read) :
    ∀ step ∈ read, ∃ written ∈ steps, readStep (stepToJson written) = .ok step := by
  induction steps generalizing read with
  | nil =>
    cases h
    nofun
  | cons written rest ih =>
    obtain ⟨first, hf, hr⟩ := Except.ok_of_bind h
    obtain ⟨others, ho, hc⟩ := Except.ok_of_bind hr
    cases hc
    refine List.forall_mem_cons.2 ⟨⟨written, List.mem_cons_self, hf⟩, fun step hm => ?_⟩
    obtain ⟨other, hother, hread⟩ := ih ho step hm
    exact ⟨other, List.mem_cons_of_mem _ hother, hread⟩

/-- Every argument that is read back is one of those that were written. -/
theorem exists_of_fromEntries {config read : Entries Expr}
    (h : fromEntries (entriesToJson config) = .ok read) :
    ∀ entry ∈ read, ∃ written, (entry.1, written) ∈ config ∧
      fromJson written.toJson = .ok entry.2 := by
  induction config generalizing read with
  | nil =>
    cases h
    nofun
  | cons written rest ih =>
    obtain ⟨first, hf, hr⟩ := Except.ok_of_bind h
    obtain ⟨others, ho, hc⟩ := Except.ok_of_bind hr
    cases hc
    refine List.forall_mem_cons.2 ⟨⟨written.2, List.mem_cons_self, hf⟩, fun entry hm => ?_⟩
    obtain ⟨other, hother, hread⟩ := ih ho entry hm
    exact ⟨other, List.mem_cons_of_mem _ hother, hread⟩

end Expr

/-- A sub-pipeline is read back from the wire form of its expression. -/
theorem SubPipeline.fromJson_pipeline {steps : Pipeline} (h : Expr.LegibleSteps steps)
    (environment : Option Context) :
    SubPipeline.fromJson (Expr.pipeline steps environment).toJson = .ok ⟨steps, environment⟩ := by
  have hp : Expr.fromJson (Expr.pipeline steps environment).toJson =
      .ok (.pipeline steps environment) :=
    Expr.fromJson_toJson (.pipeline steps environment) h
  rw [fromJson, hp]
  rfl

end BrickPipeline
