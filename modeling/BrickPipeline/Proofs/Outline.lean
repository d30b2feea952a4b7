import BrickPipeline.Proofs.Direct

/-!
Validation of outlines. The schemas of the control-flow bricks ask for no more of a sub-pipeline
than that it looks like an expression, so an empty pipeline in its place makes no difference.
-/
namespace BrickPipeline

open Arguments

variable {σ : Type}

namespace Arguments

theorem get?_outlineFields (names : List String) (name : String) (fields : List (String × Json)) :
    Entries.get? name (outlineFields names fields) =
      (Entries.get? name fields).map fun value =>
        if names.contains name then (Expr.ofSteps []).toJson else value := by
  induction fields with
  | nil => rfl
  | cons field rest ih =>
    obtain ⟨key, value⟩ := field
    rw [outlineFields, Entries.get?_cons, Entries.get?_cons, ih]
    by_cases hk : key = name
    · rw [if_pos hk, if_pos hk, hk]
      rfl
    · rw [if_neg hk, if_neg hk]

@[simp] theorem contains_outlineFields (names : List String) (name : String)
    (fields : List (String × Json)) :
    Entries.contains name (outlineFields names fields) = Entries.contains name fields := by
  unfold Entries.contains
  rw [get?_outlineFields, Option.isSome_map]

theorem outlineFields_nil (fields : List (String × Json)) : outlineFields [] fields = fields := by
  induction fields with
  | nil => rfl
  | cons field rest ih =>
    rw [outlineFields, ih]
    rfl

@[simp] theorem outline_nil (args : Json) : outline [] args = args := by
  cases args with
  | object fields => rw [outline, outlineFields_nil]
  | _ => rfl

end Arguments

/-- Whether a value looks like an expression. -/
def Json.IsTagged (value : Json) : Prop :=
  ∃ fields, value = .object fields ∧ Entries.contains typeTag fields = true

theorem Expr.isTagged_pipeline (steps : Pipeline) (environment : Option Context) :
    (Expr.pipeline steps environment).toJson.IsTagged := by
  refine ⟨_, rfl, ?_⟩
  cases environment <;> rfl

namespace Schema

theorem check_pipelineSchema {value : Json} (h : value.IsTagged) (place : String) :
    check place value pipelineSchema = [] := by
  obtain ⟨fields, rfl, ht⟩ := h
  simp [pipelineSchema, check, checkInner, typeOk, allowedTypes, hasType, ownViolations,
    enumViolations, boundViolations, requiredViolations, findings, Entries.get?_cons,
    Json.asDouble?, Json.asString?, ht]

theorem checkFields_outlineFields {names : List String} {fields properties : List (String × Json)}
    (place : String) (hp : ∀ entry ∈ properties, names.contains entry.1 = true →
      entry.2 = pipelineSchema)
    (hf : ∀ name, names.contains name = true → ∀ value, Entries.get? name fields = some value →
      value.IsTagged) :
    checkFields place (outlineFields names fields) properties =
      checkFields place fields properties := by
  induction properties with
  | nil => rw [checkFields, checkFields]
  | cons entry rest ih =>
    obtain ⟨name, schema⟩ := entry
    have hr := ih fun entry hm => hp entry (List.mem_cons_of_mem _ hm)
    rw [checkFields, checkFields, hr, get?_outlineFields]
    congr 1
    cases hg : Entries.get? name fields with
    | none => rfl
    | some value =>
      by_cases hn : names.contains name = true
      · obtain rfl : schema = pipelineSchema := hp _ List.mem_cons_self hn
        have hv := check_pipelineSchema (hf name hn value hg) s!"{place}.{name}"
        have hs := check_pipelineSchema (Expr.isTagged_pipeline [] none) s!"{place}.{name}"
        simp only [Option.map_some, if_pos hn]
        rw [hv]
        exact hs
      · simp only [Option.map_some, if_neg hn]

/-- Validation takes no notice of what the sub-pipelines in described arguments are. -/
theorem violations_outline {names : List String} {fields : List (String × Json)}
    {properties : List (String × Json)} (required : List String)
    (hp : ∀ entry ∈ properties, names.contains entry.1 = true → entry.2 = pipelineSchema)
    (hf : ∀ name, names.contains name = true → ∀ value, Entries.get? name fields = some value →
      value.IsTagged) :
    violations (outline names (.object fields)) (Arguments.schema properties required) =
      violations (.object fields) (Arguments.schema properties required) := by
  have hc := checkFields_outlineFields root
    (fun entry hm => hp entry (Entries.mem_of_mem_ofList hm)) hf
  unfold violations Arguments.schema Json.ofFields outline
  simp [check, checkInner, checkProperties, hc, typeOk, allowedTypes, hasType, ownViolations,
    enumViolations, boundViolations, requiredViolations, Entries.get?_cons, Json.asDouble?]

end Schema

/-- Whether a validator decides on the arguments of control-flow bricks without regard to what their
sub-pipelines are. -/
def Validator.SparesPipelines (validator : Validator) : Prop :=
  ∀ (control : Control) (fields : List (String × Json)),
    (∀ name ∈ control.branches, ∀ value, Entries.get? name fields = some value → value.IsTagged) →
      validator (outline control.branches (.object fields))
          (control.brick : Brick Unit).inputSchema =
        validator (.object fields) (control.brick : Brick Unit).inputSchema

theorem Control.inputSchema_brick (control : Control) :
    (control.brick : Brick σ).inputSchema = (control.brick : Brick Unit).inputSchema := by
  cases control <;> rfl

namespace Validator

theorem sparesPipelines_acceptAll : acceptAll.SparesPipelines := fun _ _ _ => rfl

theorem sparesPipelines_violations : SparesPipelines Schema.violations := by
  intro control fields hf
  have hf' : ∀ name, control.branches.contains name = true → ∀ value,
      Entries.get? name fields = some value → value.IsTagged :=
    fun name hn => hf name (List.contains_iff_mem.1 hn)
  cases control with
  | ifElse => exact Schema.violations_outline _ (by simp [Control.branches]) hf'
  | forEach => exact Schema.violations_outline _ (by simp [Control.branches]) hf'
  | tryExcept => exact Schema.violations_outline _ (by simp [Control.branches]) hf'
  | retry => exact Schema.violations_outline _ (by simp [Control.branches]) hf'

end Validator

namespace Host

variable (host : Host σ) {version : ApiVersion} {step : Step} {ctx : Context} {running : Json}

/-- A validator that accepts the same arguments prepares steps in the same way. -/
theorem prepare_outlining {names : List String}
    (h : ∀ brick mode renderCtx args, host.registry.get? step.id.text = some brick →
      Render.arguments host.renderers mode renderCtx step.config = .ok args →
        host.validator (outline names args) brick.inputSchema =
          host.validator args brick.inputSchema) :
    (host.outlining names).prepare version step ctx running =
      host.prepare version step ctx running := by
  have ha : ∀ mode renderCtx, (host.outlining names).prepareArguments mode renderCtx step =
      host.prepareArguments mode renderCtx step := by
    intro mode renderCtx
    unfold prepareArguments outlining
    dsimp only
    cases hb : host.registry.get? step.id.text with
    | none => rfl
    | some brick =>
      cases hr : Render.arguments host.renderers mode renderCtx step.config with
      | error error => rfl
      | ok args =>
        dsimp only
        rw [h brick mode renderCtx args hb hr]
  unfold prepare
  simp only [ha]
  rfl

/-- Steps that are prepared alike, and whose bricks run alike, run alike. -/
theorem stepBy_outlining (info : RunInfo) {names : List String}
    {runBrick other : Brick σ → Json → Exec σ (Except Error Json)} {index : Nat}
    (hp : (host.outlining names).prepare info.apiVersion step ctx running =
      host.prepare info.apiVersion step ctx running)
    (hr : ∀ brick args, host.prepare info.apiVersion step ctx running = .ready brick args →
      runBrick brick args = other brick args) :
    host.stepBy info runBrick step index ctx running =
      (host.outlining names).stepBy info other step index ctx running := by
  unfold stepBy
  rw [hp]
  cases h : host.prepare info.apiVersion step ctx running with
  | failed args error => rfl
  | skipped => rfl
  | ready brick args =>
    dsimp only
    rw [hr brick args h]
    rfl

end Host

end BrickPipeline
