import BrickPipeline.Proofs.ControlFlow
import BrickPipeline.Proofs.Outline
import BrickPipeline.Proofs.Reading
import BrickPipeline.Proofs.Totality

/-!
Pipelines whose sub-pipelines stand in place. Running them through JSON is the same as running them
directly: the arguments that hold sub-pipelines pass rendering and validation, and what is read from
them is what was written.
-/
namespace BrickPipeline

open Arguments

variable {σ : Type}

namespace Control

theorem ofId?_id (control : Control) : ofId? control.id = some control := by
  cases control <;> decide

theorem id_of_ofId? {id : BrickId} {control : Control} (h : ofId? id = some control) :
    control.id = id := by
  simpa using List.find?_some h

end Control

theorem Registry.exists_knows {registry : Registry σ} (only : registry.OnlyControlCalls) :
    ∃ known, registry.Knows known := by
  classical
  refine ⟨fun control => registry.get? control.id.text = some control.brick, fun id brick h => ?_⟩
  unfold control?
  cases hc : Control.ofId? id with
  | none =>
    rcases only id brick h with ⟨control, rfl, -⟩ | hf
    · rw [Control.ofId?_id] at hc
      cases hc
    · exact hf
  | some found =>
    obtain rfl := Control.id_of_ofId? hc
    by_cases hk : registry.get? found.id.text = some found.brick
    · rw [Option.filter_some_pos (by simpa using hk)]
      exact Option.some.inj (h.symm.trans hk)
    -- Another brick is registered in place of the control-flow brick.
    · rw [Option.filter_some_neg (by simpa using hk)]
      rcases only found.id brick h with ⟨control, hid, hb⟩ | hf
      · have heq : control = found := by
          have ho := Control.ofId?_id control
          rw [hid, hc] at ho
          exact (Option.some.inj ho).symm
        subst heq hb
        exact absurd h hk
      · exact hf

/-- The built-in leaves run no pipelines. -/
theorem Registry.onlyControlCalls_standard : (standard : Registry σ).OnlyControlCalls := by
  have h : ∀ id found, (standard : Registry σ).get? id = some found →
      (∃ control : Control, control.id.text = id ∧ found = control.brick) ∨ found.CallFree := by
    refine forall_standard fun brick hm => ?_
    simp only [List.mem_cons, List.not_mem_nil, or_false] at hm
    rcases hm with rfl | rfl | rfl | rfl | rfl | rfl | rfl
    · exact Or.inl ⟨.ifElse, rfl, rfl⟩
    · exact Or.inl ⟨.forEach, rfl, rfl⟩
    · exact Or.inl ⟨.tryExcept, rfl, rfl⟩
    · exact Or.inl ⟨.retry, rfl, rfl⟩
    · exact Or.inr fun _ _ => trivial
    · exact Or.inr fun _ _ => trivial
    · exact Or.inr fun _ _ => trivial
  intro id brick hb
  rcases h id.text brick hb with ⟨control, hid, hc⟩ | hf
  · refine Or.inl ⟨control, ?_, hc⟩
    cases hi : control.id
    cases id
    rw [hi] at hid
    cases hid
    rfl
  · exact Or.inr hf

namespace Expr

/-- The sub-pipeline that stands in an argument. -/
def subPipelineAt? (config : Entries Expr) (name : String) : Option SubPipeline :=
  (Entries.get? name config).bind fun
    | .pipeline steps environment => some ⟨steps, environment⟩
    | _ => none

/-- Whether an argument holds a sub-pipeline wherever it is given. -/
def HoldsPipeline (config : Entries Expr) (name : String) : Prop :=
  ∀ value, (name, value) ∈ config → ∃ steps environment,
    value = .pipeline steps environment ∧ LegibleSteps steps

theorem HoldsPipeline.isPipeline {config : Entries Expr} {name : String}
    (h : HoldsPipeline config name) :
    ∀ value, (name, value) ∈ config → value.isPipeline = true := by
  intro value hm
  obtain ⟨steps, environment, rfl, -⟩ := h value hm
  rfl

theorem exists_of_isPipeline {value : Expr} (h : value.isPipeline = true) :
    ∃ steps environment, value = .pipeline steps environment := by
  cases value with
  | pipeline steps environment => exact ⟨steps, environment, rfl⟩
  | _ => cases h

end Expr

namespace Render

open BrickPipeline.Expr

variable {renderers : Renderers} {ctx : Context} {name : String}

theorem get?_consUnlessNull_of_ne {key : String} (hk : key ≠ name) (value : Json)
    (rest : List (String × Json)) :
    Entries.get? name (consUnlessNull key value rest) = Entries.get? name rest := by
  unfold consUnlessNull
  split
  · rfl
  · rw [Entries.get?_cons, if_neg hk]

theorem get?_explicitEntries {config : Entries Expr} {fields : List (String × Json)}
    (h : explicitEntries renderers ctx config = .ok fields)
    (hp : ∀ value, (name, value) ∈ config → value.isPipeline = true) :
    Entries.get? name fields = (Entries.get? name config).map toJson := by
  induction config generalizing fields with
  | nil =>
    cases h
    rfl
  | cons entry rest ih =>
    obtain ⟨key, value⟩ := entry
    unfold explicitEntries at h
    obtain ⟨rendered, hv, hr⟩ := Except.ok_of_bind h
    obtain ⟨others, ho, hc⟩ := Except.ok_of_bind hr
    cases hc
    by_cases hk : key = name
    · subst hk
      obtain ⟨steps, environment, rfl⟩ := exists_of_isPipeline (hp value List.mem_cons_self)
      cases hv
      rw [Entries.get?_cons, if_pos rfl]
      simp [consUnlessNull, toJson, Json.isNull, Entries.get?_cons]
    · rw [get?_consUnlessNull_of_ne hk, Entries.get?_cons, if_neg hk]
      exact ih ho fun value hm => hp value (List.mem_cons_of_mem _ hm)

theorem get?_implicitEntries {engine : Engine} {config : Entries Expr}
    {fields : List (String × Json)} (h : implicitEntries renderers engine ctx config = .ok fields)
    (hp : ∀ value, (name, value) ∈ config → value.isPipeline = true) :
    Entries.get? name fields = (Entries.get? name config).map toJson := by
  induction config generalizing fields with
  | nil =>
    cases h
    rfl
  | cons entry rest ih =>
    obtain ⟨key, value⟩ := entry
    unfold implicitEntries at h
    obtain ⟨rendered, hv, hr⟩ := Except.ok_of_bind h
    obtain ⟨others, ho, hc⟩ := Except.ok_of_bind hr
    cases hc
    rw [Entries.get?_cons, Entries.get?_cons]
    by_cases hk : key = name
    · subst hk
      obtain ⟨steps, environment, rfl⟩ := exists_of_isPipeline (hp value List.mem_cons_self)
      cases hv
      rw [if_pos rfl, if_pos rfl]
      rfl
    · rw [if_neg hk, if_neg hk]
      exact ih ho fun value hm => hp value (List.mem_cons_of_mem _ hm)

/-- Rendering leaves a sub-pipeline in its argument, in wire form. -/
theorem get?_arguments {mode : RenderMode} {config : Entries Expr} {args : Json}
    (h : arguments renderers mode ctx config = .ok args)
    (hp : ∀ value, (name, value) ∈ config → value.isPipeline = true) :
    args.get? name = (Entries.get? name config).map toJson := by
  unfold arguments at h
  split at h
  · obtain ⟨fields, hf, rfl⟩ := Except.ok_of_map h
    exact get?_explicitEntries hf hp
  · obtain ⟨fields, hf, rfl⟩ := Except.ok_of_map h
    exact get?_implicitEntries hf hp

theorem exists_object_of_arguments {mode : RenderMode} {config : Entries Expr} {args : Json}
    (h : arguments renderers mode ctx config = .ok args) : ∃ fields, args = .object fields := by
  unfold arguments at h
  split at h
  · obtain ⟨fields, -, rfl⟩ := Except.ok_of_map h
    exact ⟨fields, rfl⟩
  · obtain ⟨fields, -, rfl⟩ := Except.ok_of_map h
    exact ⟨fields, rfl⟩

end Render

/-- A sub-pipeline that stands in an argument in wire form is read from there. -/
theorem Arguments.subPipeline?_of_get? (id : BrickId) {args : Json} {name : String}
    {steps : Pipeline} {environment : Option Context} (legible : Expr.LegibleSteps steps)
    (h : args.get? name = some (Expr.pipeline steps environment).toJson) :
    subPipeline? id args name = .ok (some ⟨steps, environment⟩) := by
  have hread := SubPipeline.fromJson_pipeline legible environment
  have hobject : ∃ fields, (Expr.pipeline steps environment).toJson = .object fields := ⟨_, rfl⟩
  obtain ⟨fields, hfields⟩ := hobject
  rw [hfields] at h hread
  unfold subPipeline?
  rw [h]
  simp only [hread]

/-- What a control-flow brick reads from a rendered argument is the sub-pipeline that stands in the
argument. -/
theorem Arguments.subPipeline?_of_holds {config : Entries Expr} {name : String} {args : Json}
    (id : BrickId) (hp : Expr.HoldsPipeline config name)
    (ha : args.get? name = (Entries.get? name config).map Expr.toJson) :
    subPipeline? id args name = .ok (Expr.subPipelineAt? config name) := by
  unfold Expr.subPipelineAt?
  cases hc : Entries.get? name config with
  | none =>
    unfold subPipeline?
    rw [ha, hc]
    rfl
  | some value =>
    obtain ⟨steps, environment, rfl, hl⟩ := hp value (Entries.mem_of_get? hc)
    rw [hc, Option.map_some] at ha
    exact subPipeline?_of_get? id hl ha

namespace Direct

variable {host : Host σ} {info : RunInfo} {known : Control → Bool}

theorem bodies_eq (config : List (String × Expr)) (name : String) :
    bodies host info known config name =
      (Expr.subPipelineAt? config name).map (below (runPipeline host info known)) := by
  unfold Expr.subPipelineAt?
  induction config with
  | nil => rfl
  | cons entry rest ih =>
    obtain ⟨key, value⟩ := entry
    rw [bodies, Entries.get?_cons]
    by_cases hk : key = name
    · rw [if_pos hk, if_pos hk]
      cases value <;> rfl
    · rw [if_neg hk, if_neg hk]
      exact ih

/-- Whether the sub-pipelines of a step stand in place and run as they run directly. -/
def Settled (host : Host σ) (info : RunInfo) (known : Control → Bool) (nested : Runner σ)
    (step : Step) : Prop :=
  ∀ control, Control.ofId? step.id = some control → ∀ name ∈ control.branches,
    Expr.HoldsPipeline step.config name ∧
      ∀ sub, Expr.subPipelineAt? step.config name = some sub →
        nested sub.steps = runPipeline host info known sub.steps

theorem bodies_of_settled {nested : Runner σ} {step : Step} {control : Control} {name : String}
    (hs : Settled host info known nested step) (hc : Control.ofId? step.id = some control)
    (hm : name ∈ control.branches) :
    bodies host info known step.config name =
      (Expr.subPipelineAt? step.config name).map (below nested) := by
  rw [bodies_eq]
  cases hsub : Expr.subPipelineAt? step.config name with
  | none => rfl
  | some sub =>
    have hn := (hs control hc name hm).2 sub hsub
    simp only [Option.map_some, Option.some.injEq]
    funext ctx bindings
    unfold below
    rw [hn]

theorem isTagged_of_settled {nested : Runner σ} {step : Step} {control : Control}
    (hs : Settled host info known nested step) (hc : Control.ofId? step.id = some control)
    {mode : RenderMode} {renderCtx : Context} {fields : List (String × Json)}
    (hr : Render.arguments host.renderers mode renderCtx step.config = .ok (.object fields)) :
    ∀ name ∈ control.branches, ∀ value, Entries.get? name fields = some value →
      value.IsTagged := by
  intro name hm value hv
  have hp := (hs control hc name hm).1
  have hg := Render.get?_arguments hr hp.isPipeline
  rw [Json.get?, hv] at hg
  obtain ⟨written, hw, rfl⟩ := Option.map_eq_some_iff.1 hg.symm
  obtain ⟨steps, environment, rfl, -⟩ := hp written (Entries.mem_of_get? hw)
  exact Expr.isTagged_pipeline steps environment

/-- A step whose sub-pipelines stand in place runs as it runs directly. -/
theorem runStep_eq (knows : host.registry.Knows known) (spares : host.validator.SparesPipelines)
    {nested : Runner σ} {step : Step} (hs : Settled host info known nested step) (index : Nat)
    (ctx : Context) (running : Json) :
    host.runStep info nested step index ctx running =
      runStep host info known step index ctx running := by
  have hrun : runStep host info known step =
      stepWith host info known step (bodies host info known step.config) := by
    cases step
    rfl
  rw [hrun, stepWith, host.runStep_eq_stepBy]
  have hof : ∀ control, Registry.control? known step.id = some control →
      Control.ofId? step.id = some control := fun control hc =>
    (Option.filter_eq_some_iff.1 hc).1
  refine host.stepBy_outlining info (host.prepare_outlining ?_) ?_
  -- The arguments are valid just if their outline is.
  · intro brick mode renderCtx args hb hr
    have hk := knows step.id brick hb
    cases hc : Registry.control? known step.id with
    | none => rw [Option.map_none, Option.getD_none, outline_nil]
    | some control =>
      rw [hc] at hk
      subst hk
      obtain ⟨fields, rfl⟩ := Render.exists_object_of_arguments hr
      rw [Option.map_some, Option.getD_some, Control.inputSchema_brick]
      exact spares control fields (isTagged_of_settled hs (hof control hc) hr)
  -- The brick reads from its arguments what stands in the config.
  · intro brick args hready
    obtain ⟨hb, mode, renderCtx, hr⟩ := host.ready_spec _ step ctx running hready
    have hk := knows step.id brick hb
    unfold runBrick
    cases hc : Registry.control? known step.id with
    | none =>
      rw [hc] at hk
      exact Routine.exec_of_callFree (hk args _) _ _ _ _
    | some control =>
      rw [hc] at hk
      subst hk
      have hsub : ∀ name ∈ control.branches,
          subPipeline? control.id args name = .ok (Expr.subPipelineAt? step.config name) := by
        intro name hm
        have hp := (hs control (hof control hc) name hm).1
        exact subPipeline?_of_holds control.id hp (Render.get?_arguments hr hp.isPipeline)
      exact exec_control nested _ ctx control _ hsub fun name hm =>
        bodies_of_settled hs (hof control hc) hm

theorem runSteps_eq (knows : host.registry.Knows known)
    (spares : host.validator.SparesPipelines) {nested : Runner σ} {pipeline : Pipeline}
    (hs : ∀ step ∈ pipeline, Settled host info known nested step) (index : Nat) (ctx : Context)
    (running last : Json) :
    host.runSteps info nested pipeline index ctx running last =
      steps host info known pipeline index ctx running last := by
  induction pipeline generalizing index ctx running last with
  | nil => rfl
  | cons step rest ih =>
    have ih := ih fun step hm => hs step (List.mem_cons_of_mem _ hm)
    unfold Host.runSteps steps
    rw [runStep_eq knows spares (hs step List.mem_cons_self)]
    congr 1
    funext answer
    rcases answer with error | _ | value
    · rfl
    · exact ih _ _ _ _
    · cases hk : step.outputKey with
      | none => simp [Host.contextAfter, Host.runningAfter, hk, ih]
      | some outputKey => simp [Host.contextAfter, Host.runningAfter, hk, ih]

end Direct

namespace Pipeline

theorem valueInPlace_of_mem {names : List String} {config : List (String × Expr)}
    (h : entriesInPlace names config = true) {name : String} (hn : name ∈ names) {value : Expr}
    (hm : (name, value) ∈ config) : valueInPlace value = true := by
  induction config with
  | nil => cases hm
  | cons entry rest ih =>
    obtain ⟨key, first⟩ := entry
    unfold entriesInPlace at h
    obtain ⟨hv, hr⟩ := (Bool.and_eq_true_iff).1 h
    rcases List.mem_cons.1 hm with he | hm
    · cases he
      simpa [hn] using hv
    · exact ih hr hm

theorem valueNesting_le {config : List (String × Expr)} {name : String} {value : Expr}
    (hm : (name, value) ∈ config) : valueNesting value ≤ entriesNesting config := by
  induction config with
  | nil => cases hm
  | cons entry rest ih =>
    obtain ⟨key, first⟩ := entry
    unfold entriesNesting
    rcases List.mem_cons.1 hm with he | hm
    · cases he
      exact Nat.le_max_left _ _
    · exact Nat.le_trans (ih hm) (Nat.le_max_right _ _)

theorem stepNesting_le {steps : Pipeline} {step : Step} (hm : step ∈ steps) :
    stepNesting step ≤ nesting steps := by
  induction steps with
  | nil => cases hm
  | cons first rest ih =>
    unfold nesting
    rcases List.mem_cons.1 hm with rfl | hm
    · exact Nat.le_max_left _ _
    · exact Nat.le_trans (ih hm) (Nat.le_max_right _ _)

theorem stepInPlace_of_mem {steps : Pipeline} (h : inPlace steps = true) {step : Step}
    (hm : step ∈ steps) : stepInPlace step = true := by
  induction steps with
  | nil => cases hm
  | cons first rest ih =>
    unfold inPlace at h
    obtain ⟨hf, hr⟩ := (Bool.and_eq_true_iff).1 h
    rcases List.mem_cons.1 hm with rfl | hm
    · exact hf
    · exact ih hr hm

end Pipeline

theorem Expr.legibleStep_of_mem {steps : Pipeline} (h : LegibleSteps steps) {step : Step}
    (hm : step ∈ steps) : LegibleStep step := by
  induction steps with
  | nil => cases hm
  | cons first rest ih =>
    rcases List.mem_cons.1 hm with rfl | hm
    · exact h.1
    · exact ih h.2 hm

theorem Expr.mem_of_subPipelineAt? {config : Entries Expr} {name : String} {sub : SubPipeline}
    (h : subPipelineAt? config name = some sub) :
    (name, Expr.pipeline sub.steps sub.environment) ∈ config := by
  obtain ⟨value, hg, hv⟩ := Option.bind_eq_some_iff.1 h
  cases value with
  | pipeline steps environment =>
    cases hv
    exact Entries.mem_of_get? hg
  | _ => cases hv

namespace Direct

variable {host : Host σ} {info : RunInfo} {known : Control → Bool}

/-- A step settles if all pipelines that are nested less deep do. -/
theorem settled_of_inPlace {nested : Runner σ} {depth : Nat} {step : Step}
    (legible : Expr.LegibleStep step) (inPlace : Pipeline.stepInPlace step = true)
    (deep : Pipeline.stepNesting step ≤ depth)
    (ih : ∀ sub, Expr.LegibleSteps sub → Pipeline.inPlace sub = true →
      Pipeline.nesting sub < depth → nested sub = runPipeline host info known sub) :
    Settled host info known nested step := by
  intro control hc name hm
  obtain ⟨id, config, outputKey, onError, condition, engine, label, instanceId⟩ := step
  have hn : name ∈ Pipeline.branchNames id := by
    have hb : Pipeline.branchNames id = control.branches := by
      unfold Pipeline.branchNames
      rw [show Control.ofId? id = some control from hc]
      rfl
    rw [hb]
    exact hm
  have hvalue : ∀ value, (name, value) ∈ config → Pipeline.valueInPlace value = true :=
    fun value hv => Pipeline.valueInPlace_of_mem inPlace hn hv
  have hlegible : ∀ entry ∈ config, Expr.Legible entry.2 := Expr.legibleEntries_iff.1 legible.1
  constructor
  · intro value hv
    have hp := hvalue value hv
    cases value with
    | pipeline steps environment => exact ⟨steps, environment, rfl, hlegible _ hv⟩
    | _ => cases hp
  · intro sub hsub
    have hv := Expr.mem_of_subPipelineAt? hsub
    have hle : Pipeline.nesting sub.steps + 1 ≤ Pipeline.entriesNesting config :=
      Pipeline.valueNesting_le hv
    have hdeep : Pipeline.entriesNesting config ≤ depth := deep
    exact ih sub.steps (hlegible _ hv) (hvalue _ hv) (by omega)

/-- A pipeline whose sub-pipelines stand in place runs as it runs directly, as soon as the depth
admits the nesting that is seen in it. -/
theorem runPipeline_eq (knows : host.registry.Knows known)
    (spares : host.validator.SparesPipelines) {depth : Nat} {steps : Pipeline}
    (legible : Expr.LegibleSteps steps) (inPlace : Pipeline.inPlace steps = true)
    (deep : Pipeline.nesting steps < depth) :
    host.runPipeline info depth steps = runPipeline host info known steps := by
  induction depth generalizing steps with
  | zero => omega
  | succ depth ih =>
    -- A sub-pipeline that stands in place is nested less deep than the pipeline around it.
    funext ctx
    refine runSteps_eq knows spares (fun step hm => ?_) _ _ _ _
    have hle := Pipeline.stepNesting_le hm
    exact settled_of_inPlace (Expr.legibleStep_of_mem legible hm)
      (Pipeline.stepInPlace_of_mem inPlace hm) (by omega)
      fun sub hl hp hd => ih hl hp hd

end Direct

/-- If only the control-flow bricks run pipelines, a pipeline that was read and whose sub-pipelines
stand in place runs as it runs directly: its events, its answer and the state that it leaves are
the same. It has an answer at every depth beyond the nesting that is seen in it, so the pipelines
that it runs are never nested deeper than that. -/
theorem Host.runPipeline_inPlace (host : Host σ) (info : RunInfo)
    (only : host.registry.OnlyControlCalls)
    (validates : host.validator = Schema.violations ∨ host.validator = Validator.acceptAll)
    {origin : Wire.Origin} {tree : Json.Tree} {steps : Pipeline}
    (read : Pipeline.read origin tree = .ok steps) (inPlace : Pipeline.inPlace steps = true) :
    (∃ known, host.registry.Knows known) ∧
      ∀ known, host.registry.Knows known → ∀ depth, Pipeline.nesting steps < depth →
        ∀ (ctx : Context) (state : σ),
          host.runPipeline info depth steps ctx state =
            Direct.runPipeline host info known steps ctx state ∧
          ∃ answer, (host.runPipeline info depth steps ctx state).answer = some answer := by
  refine ⟨Registry.exists_knows only, fun known knows depth deep ctx state => ?_⟩
  have spares : host.validator.SparesPipelines := by
    rcases validates with h | h
    · rw [h]
      exact Validator.sparesPipelines_violations
    · rw [h]
      exact Validator.sparesPipelines_acceptAll
  have heq : host.runPipeline info depth steps = Direct.runPipeline host info known steps :=
    Direct.runPipeline_eq knows spares (Pipeline.legible_of_read read) inPlace deep
  rw [heq]
  exact ⟨rfl, Direct.answers_runPipeline knows steps ctx state⟩

/-- The text form of the sample pipeline. -/
def Sample.tree : Json.Tree :=
  let throwing (message : String) : Json.Tree :=
    .object [("id", .string "@brick/throw"), ("config", .object [("message", .string message)]),
      ("onError", .object [("alert", .bool true)])]
  .array [
    .object [("id", .string "@brick/try-except"), ("config", .object [("try", .object
      [("__type__", .string "pipeline"), ("__value__", .array [throwing "inner"])])])],
    throwing "outer"]

theorem Host.runPipeline_inPlace_sample :
    ∃ known, Sample.host.registry.Knows known ∧
      Sample.ran = Direct.runPipeline Sample.host Sample.info known Sample.steps .empty () ∧
      ∃ answer, Sample.ran.answer = some answer := by
  have read : Pipeline.read .text Sample.tree = .ok Sample.steps := rfl
  obtain ⟨⟨known, knows⟩, hall⟩ := Sample.host.runPipeline_inPlace Sample.info
    Registry.onlyControlCalls_standard (Or.inl rfl) read (by decide +kernel)
  obtain ⟨heq, hanswer⟩ := hall known knows 2 (by decide) .empty ()
  exact ⟨known, knows, heq, hanswer⟩

end BrickPipeline
