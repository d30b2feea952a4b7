import BrickPipeline.Proofs.Requests

/-!
What the walk over a pipeline comes to. If the sub-pipelines stand in place, every step that a run
executes in any of its scopes is one that the walk has come to, as it stands or as it is read back
from its wire form.
-/
namespace BrickPipeline

open Arguments

variable {σ : Type}

namespace Pipeline

mutual

/-- The walk over a pipeline goes into the arguments of every step that it comes to. -/
theorem walkEntries_subset_walk {place : String} {step : Step} : ∀ {scope : String} {index : Nat}
    (steps : List Step), (place, step) ∈ walk scope index steps →
      walkEntries place step.config ⊆ walk scope index steps
  | _, _, [], h => nomatch h
  | scope, index, first :: rest, h => by
    rw [walk] at h ⊢
    rcases List.mem_append.1 h with h | h
    · exact List.subset_append_of_subset_left _ (walkEntries_subset_walkStep first h)
    · exact List.subset_append_of_subset_right _ (walkEntries_subset_walk rest h)

theorem walkEntries_subset_walkStep {place : String} {step : Step} : ∀ {around : String}
    (first : Step), (place, step) ∈ walkStep around first →
      walkEntries place step.config ⊆ walkStep around first
  | around, .mk id config outputKey onError condition engine label instanceId, h => by
    rw [walkStep] at h ⊢
    rcases List.mem_cons.1 h with he | h
    · cases he
      exact List.subset_cons_self _ _
    · exact List.subset_cons_of_subset _ (walkEntries_subset_walkEntries config h)

theorem walkEntries_subset_walkValue {place : String} {step : Step} : ∀ {scope : String}
    (value : Expr), (place, step) ∈ walkValue scope value →
      walkEntries place step.config ⊆ walkValue scope value
  | _, .pipeline steps _, h => walkEntries_subset_walk steps h
  | _, .defer inner, h => walkEntries_subset_walkValue inner h
  | _, .array items, h => walkEntries_subset_walkItems items h
  | _, .object entries, h => walkEntries_subset_walkFields entries h

theorem walkEntries_subset_walkItems {place : String} {step : Step} : ∀ {scope : String}
    (items : List Expr), (place, step) ∈ walkItems scope items →
      walkEntries place step.config ⊆ walkItems scope items
  | _, [], h => nomatch h
  | scope, item :: rest, h => by
    rw [walkItems] at h ⊢
    rcases List.mem_append.1 h with h | h
    · exact List.subset_append_of_subset_left _ (walkEntries_subset_walkValue item h)
    · exact List.subset_append_of_subset_right _ (walkEntries_subset_walkItems rest h)

theorem walkEntries_subset_walkFields {place : String} {step : Step} : ∀ {scope : String}
    (entries : List (String × Expr)), (place, step) ∈ walkFields scope entries →
      walkEntries place step.config ⊆ walkFields scope entries
  | _, [], h => nomatch h
  | scope, (_, value) :: rest, h => by
    rw [walkFields] at h ⊢
    rcases List.mem_append.1 h with h | h
    · exact List.subset_append_of_subset_left _ (walkEntries_subset_walkValue value h)
    · exact List.subset_append_of_subset_right _ (walkEntries_subset_walkFields rest h)

theorem walkEntries_subset_walkEntries {place : String} {step : Step} : ∀ {around : String}
    (entries : List (String × Expr)), (place, step) ∈ walkEntries around entries →
      walkEntries place step.config ⊆ walkEntries around entries
  | _, [], h => nomatch h
  | around, (_, value) :: rest, h => by
    rw [walkEntries] at h ⊢
    rcases List.mem_append.1 h with h | h
    · exact List.subset_append_of_subset_left _ (walkEntries_subset_walkValue value h)
    · exact List.subset_append_of_subset_right _ (walkEntries_subset_walkEntries rest h)

end

theorem exists_mem_walk (scope : String) (index : Nat) {steps : List Step} {step : Step}
    (h : step ∈ steps) : ∃ place, (place, step) ∈ walk scope index steps := by
  induction steps generalizing index with
  | nil => cases h
  | cons first rest ih =>
    unfold walk
    rcases List.mem_cons.1 h with rfl | h
    · refine ⟨stepPlace scope index, List.mem_append_left _ ?_⟩
      cases step
      exact List.mem_cons_self
    · obtain ⟨place, hp⟩ := ih (index + 1) h
      exact ⟨place, List.mem_append_right _ hp⟩

theorem walk_subset_walkEntries {place name : String} {steps : List Step}
    {environment : Option Context} {config : List (String × Expr)}
    (h : (name, Expr.pipeline steps environment) ∈ config) :
    walk (argumentPlace place name) 0 steps ⊆ walkEntries place config := by
  induction config with
  | nil => cases h
  | cons entry rest ih =>
    obtain ⟨key, value⟩ := entry
    unfold walkEntries
    rcases List.mem_cons.1 h with he | h
    · cases he
      exact List.subset_append_left _ _
    · exact List.subset_append_of_subset_right _ (ih h)

/-- Whether the walk over a pipeline comes to a step. -/
def Sees (steps : Pipeline) (step : Step) : Prop :=
  ∃ place, (place, step) ∈ placedSteps steps

theorem sees_of_mem {steps : Pipeline} {step : Step} (h : step ∈ steps) : Sees steps step :=
  exists_mem_walk "pipeline" 0 h

/-- The walk comes to the steps of a sub-pipeline that stands in an argument. -/
theorem Sees.inner {steps sub : Pipeline} {step inner : Step} {name : String}
    {environment : Option Context} (h : Sees steps step)
    (hp : (name, Expr.pipeline sub environment) ∈ step.config) (hm : inner ∈ sub) :
    Sees steps inner := by
  obtain ⟨place, hplace⟩ := h
  obtain ⟨found, hfound⟩ := exists_mem_walk (argumentPlace place name) 0 hm
  exact ⟨found, walkEntries_subset_walk steps hplace (walk_subset_walkEntries hp hfound)⟩

end Pipeline

/-- Whether a step that a document declares may be run as another: as it stands, or as it is read
back from its wire form. -/
def Step.RunsAs (declared run : Step) : Prop :=
  run = declared ∨ Expr.readStep declared.toJson = .ok run

namespace Step.RunsAs

variable {declared run : Step} (h : declared.RunsAs run)

include h

/-- A step keeps its brick and its output key. -/
theorem id_outputKey : run.id = declared.id ∧ run.outputKey = declared.outputKey := by
  rcases h with rfl | h
  · exact ⟨rfl, rfl⟩
  · cases declared
    obtain ⟨_, _, -, rfl⟩ := Expr.exists_of_readStep_stepToJson h
    exact ⟨rfl, rfl⟩

/-- An argument of the step that is run was declared, and may have been read back. -/
theorem exists_of_mem_config {name : String} {value : Expr} (hm : (name, value) ∈ run.config) :
    ∃ written, (name, written) ∈ declared.config ∧
      (value = written ∨ Expr.fromJson written.toJson = .ok value) := by
  rcases h with rfl | h
  · exact ⟨value, hm, Or.inl rfl⟩
  · cases declared
    obtain ⟨read, _, hconfig, rfl⟩ := Expr.exists_of_readStep_stepToJson h
    obtain ⟨written, hw, hread⟩ := Expr.exists_of_fromEntries hconfig (name, value) hm
    exact ⟨written, hw, Or.inr hread⟩

/-- A step that was read from a text is run as it stands. -/
theorem eq_of_legible (legible : Expr.LegibleStep declared) : run = declared := by
  rcases h with h | h
  · exact h
  · have hd := Expr.readStep_stepToJson declared legible
    exact (Except.ok.inj (hd.symm.trans h)).symm

end Step.RunsAs

/-- What a brick reads from an argument in which a pipeline was declared, and may have been read
back before: each of the steps is one that was declared. -/
theorem SubPipeline.runsAs_of_fromJson {steps : Pipeline} {environment : Option Context}
    {value : Expr}
    (h : value = .pipeline steps environment ∨
      Expr.fromJson (Expr.pipeline steps environment).toJson = .ok value)
    {sub : SubPipeline} (hs : fromJson value.toJson = .ok sub) :
    ∀ step ∈ sub.steps, ∃ declared ∈ steps, declared.RunsAs step := by
  obtain ⟨found, hf, hsub⟩ := Except.ok_of_bind hs
  rcases h with rfl | h
  · obtain ⟨read, hread, rfl⟩ := Expr.pipeline_of_fromJson hf
    cases hsub
    intro step hm
    obtain ⟨declared, hd, hstep⟩ := Expr.exists_of_readStepItems hread step hm
    exact ⟨declared, hd, Or.inr hstep⟩
  · obtain ⟨read, hread, rfl⟩ := Expr.pipeline_of_fromJson h
    -- What was read is legible, so it is not changed by being read once more.
    have legible : Expr.LegibleSteps read := Expr.legible_of_readStepItems _ hread
    obtain ⟨again, hagain, rfl⟩ := Expr.pipeline_of_fromJson hf
    rw [Expr.readStepItems_stepsToJson read legible] at hagain
    cases hagain
    cases hsub
    intro step hm
    obtain ⟨declared, hd, hstep⟩ := Expr.exists_of_readStepItems hread step hm
    exact ⟨declared, hd, Or.inr hstep⟩

/-- A sub-pipeline in an argument of a legible step is legible. -/
theorem Expr.LegibleStep.inner {step : Step} (h : LegibleStep step) {name : String}
    {steps : Pipeline} {environment : Option Context}
    (hm : (name, Expr.pipeline steps environment) ∈ step.config) : LegibleSteps steps := by
  cases step
  exact legibleEntries_iff.1 h.1 _ hm

theorem Arguments.subPipeline?_some {id : BrickId} {args : Json} {name : String}
    {sub : SubPipeline} (h : subPipeline? id args name = .ok (some sub)) :
    ∃ value, args.get? name = some value ∧ SubPipeline.fromJson value = .ok sub := by
  unfold subPipeline? at h
  split at h
  · cases h
  · cases h
  · rename_i value _ hv
    split at h
    · rename_i found hf
      cases h
      exact ⟨value, hv, hf⟩
    · cases h

namespace Host

variable {host : Host σ} {info : RunInfo} {nested : Runner σ}

theorem step_mem_of_mem_scope {call : Call σ} {visit : Visit σ}
    (h : visit ∈ host.scope info nested call) : visit.step ∈ call.sub.steps :=
  (host.visits_steps_prefix info nested _ _ _ _ _).subset (List.mem_map_of_mem h)

/-- A sub-pipeline that a step asks for stands in an argument of the step as it was declared. -/
theorem declared_of_mem_calls (only : host.registry.OnlyControlCalls) {visit : Visit σ}
    {call : Call σ} (asked : call ∈ host.calls info nested visit) {declared : Step}
    (runs : declared.RunsAs visit.step) (inPlace : Pipeline.stepInPlace declared = true) :
    ∃ name steps environment, (name, Expr.pipeline steps environment) ∈ declared.config ∧
      Pipeline.inPlace steps = true ∧
      ∀ step ∈ call.sub.steps, ∃ inner ∈ steps, inner.RunsAs step := by
  obtain ⟨control, args, hp, hid, ⟨name, hname, hsub⟩, -⟩ := asked_of_mem_calls only asked
  obtain ⟨-, mode, renderCtx, hargs⟩ :=
    host.ready_spec info.apiVersion visit.step visit.context visit.running hp
  have hbranch : name ∈ Pipeline.branchNames declared.id := by
    rw [← runs.id_outputKey.1, ← hid, Pipeline.branchNames, Control.ofId?_id]
    exact hname
  have hdeclared : ∀ written, (name, written) ∈ declared.config → ∃ steps environment,
      written = .pipeline steps environment ∧ Pipeline.inPlace steps = true := by
    intro written hw
    cases declared
    have hv := Pipeline.valueInPlace_of_mem inPlace hbranch hw
    cases written with
    | pipeline steps environment => exact ⟨steps, environment, rfl, hv⟩
    | _ => cases hv
  have hpipeline : ∀ value, (name, value) ∈ visit.step.config → value.isPipeline = true := by
    intro value hm
    obtain ⟨written, hw, hread⟩ := runs.exists_of_mem_config hm
    obtain ⟨steps, environment, rfl, -⟩ := hdeclared written hw
    rcases hread with rfl | hread
    · rfl
    · obtain ⟨read, -, rfl⟩ := Expr.pipeline_of_fromJson hread
      rfl
  -- What the brick reads is what was rendered for the argument.
  obtain ⟨rendered, hg, hread⟩ := subPipeline?_some hsub
  rw [Render.get?_arguments hargs hpipeline] at hg
  obtain ⟨value, hvalue, rfl⟩ := Option.map_eq_some_iff.1 hg
  obtain ⟨written, hw, hfrom⟩ := runs.exists_of_mem_config (Entries.mem_of_get? hvalue)
  obtain ⟨steps, environment, rfl, hin⟩ := hdeclared written hw
  exact ⟨name, steps, environment, hw, hin, SubPipeline.runsAs_of_fromJson hfrom hread⟩

/-- Every step of every scope that a run enters is one that the walk over its pipeline comes to. -/
theorem Enters.sees (only : host.registry.OnlyControlCalls) {steps : Pipeline} {ctx : Context}
    {state : σ} (inPlace : Pipeline.inPlace steps = true) {depth left : Nat}
    {path : List (Visit σ × Call σ)} {scope : Call σ}
    (entered : host.Enters info depth (.root steps ctx state) left path scope) :
    ∀ step ∈ scope.sub.steps, ∃ declared, Pipeline.Sees steps declared ∧
      declared.RunsAs step ∧ Pipeline.stepInPlace declared = true ∧
      (Expr.LegibleSteps steps → Expr.LegibleStep declared) := by
  induction entered with
  | here =>
    exact fun step hm =>
      ⟨step, Pipeline.sees_of_mem hm, Or.inl rfl, Pipeline.stepInPlace_of_mem inPlace hm,
        fun legible => Expr.legibleStep_of_mem legible hm⟩
  | deeper _ visited asked ih =>
    obtain ⟨outer, hsees, hruns, hin, hlegible⟩ := ih _ (step_mem_of_mem_scope visited)
    obtain ⟨name, sub, environment, hp, hsub, hsteps⟩ := declared_of_mem_calls only asked hruns hin
    intro step hm
    obtain ⟨inner, hi, hr⟩ := hsteps step hm
    exact ⟨inner, hsees.inner hp hi, hr, Pipeline.stepInPlace_of_mem hsub hi,
      fun legible => Expr.legibleStep_of_mem ((hlegible legible).inner hp) hi⟩

end Host

end BrickPipeline
