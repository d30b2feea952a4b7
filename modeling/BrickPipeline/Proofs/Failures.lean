import BrickPipeline.Proofs.Plain

/-!
Failures on their way out. A failure is raised by a step, gets one context layer there, and leaves
that step and the steps around it until a brick does not hand it on or the run is over.
-/
namespace BrickPipeline

variable {σ : Type}

namespace Error

/-- The failure with its outermost mark replaced. -/
def withAlerted (alerted : Bool) : Error → Error
  | .context brickId bindings _ source => .context brickId bindings alerted source
  | error => error

end Error

/-- A step that a failure has left, and the failure as it was then. -/
structure Stage where
  step : Step
  error : Error

/-- A failure: the scope and the step it was raised in, what was raised, and the steps it has left
since, innermost first. -/
structure Failure (σ : Type) where
  /-- How deep scopes may nest below the one it was raised in. -/
  depth : Nat
  scope : Call σ
  visit : Visit σ
  cause : Error
  stages : List Stage

namespace Failure

/-- The failure after it has left one more step. -/
def past (failure : Failure σ) (stage : Stage) : Failure σ :=
  { failure with stages := failure.stages ++ [stage] }

/-- The failure as it was seen last. -/
def error (failure : Failure σ) : Error :=
  ((failure.stages.getLast?).map Stage.error).getD failure.cause

@[simp] theorem error_past (failure : Failure σ) (stage : Stage) :
    (failure.past stage).error = stage.error := by
  simp [error, past]

theorem error_eq_getLast (failure : Failure σ) (h : failure.stages ≠ []) :
    failure.error = (failure.stages.getLast h).error := by
  simp [error, List.getLast?_eq_some_getLast h]

end Failure

namespace Host

/-- A run fails with a failure: the last step that it reached has raised it, or the brick of that
step has handed on the failure of a sub-pipeline that it ran. -/
inductive FailsWith (host : Host σ) (info : RunInfo) : Nat → Call σ → Failure σ → Prop where
  | raised {depth : Nat} {call : Call σ} {visit : Visit σ} {cause left : Error}
    (last : (host.scope info (host.runPipeline info depth) call).getLast? = some visit)
    (raises : host.raised? info (host.runPipeline info depth) visit = some cause)
    (plain : cause.isContext = false)
    (leaves : (host.visitRun info (host.runPipeline info depth) visit).answer =
      some (.error left)) :
    FailsWith host info (depth + 1) call ⟨depth, call, visit, cause, [⟨visit.step, left⟩]⟩
  | passed {depth : Nat} {call below : Call σ} {visit : Visit σ} {failure : Failure σ}
    {left : Error}
    (last : (host.scope info (host.runPipeline info depth) call).getLast? = some visit)
    (asked : below ∈ host.calls info (host.runPipeline info depth) visit)
    (failed : FailsWith host info depth below failure)
    (raises : host.raised? info (host.runPipeline info depth) visit = some failure.error)
    (leaves : (host.visitRun info (host.runPipeline info depth) visit).answer =
      some (.error left)) :
    FailsWith host info (depth + 1) call (failure.past ⟨visit.step, left⟩)

variable (host : Host σ) (info : RunInfo)

theorem leave_plain (step : Step) (ctx : Context) {cause : Error}
    (plain : cause.isContext = false) :
    ∃ alerted, leave info step ctx cause = .context step.id ctx.bindings alerted cause := by
  unfold leave wrap
  rw [if_neg (by simp [plain])]
  split
  · exact ⟨false, rfl⟩
  · exact ⟨true, rfl⟩

theorem leave_context (step : Step) (ctx : Context) (brickId : BrickId) (bindings : Entries Json)
    (alerted : Bool) (source : Error) :
    ∃ marked, leave info step ctx (.context brickId bindings alerted source) =
      .context brickId bindings marked source := by
  unfold leave wrap
  split
  · exact ⟨alerted, rfl⟩
  · exact ⟨true, rfl⟩

/-- The answer of a step that came to a failure is the failure as it leaves the step. -/
theorem leave_of_raised (nested : Runner σ) {visit : Visit σ} {error left : Error}
    (raises : host.raised? info nested visit = some error)
    (leaves : (host.visitRun info nested visit).answer = some (.error left)) :
    left = leave info visit.step visit.context error := by
  have h := host.visitRun_answer info nested visit leaves
  rw [raises] at h
  exact Except.error.inj h

variable {host info}

namespace FailsWith

theorem stages_ne_nil {depth : Nat} {call : Call σ} {failure : Failure σ}
    (h : host.FailsWith info depth call failure) : failure.stages ≠ [] := by
  cases h <;> simp [Failure.past]

theorem cause_plain {depth : Nat} {call : Call σ} {failure : Failure σ}
    (h : host.FailsWith info depth call failure) : failure.cause.isContext = false := by
  induction h with
  | raised _ _ plain _ => exact plain
  | passed _ _ _ _ _ ih => exact ih

/-- The step in which a failure was raised is the last that its scope reached, and raised it. -/
theorem origin {depth : Nat} {call : Call σ} {failure : Failure σ}
    (h : host.FailsWith info depth call failure) :
    (host.scope info (host.runPipeline info failure.depth) failure.scope).getLast? =
        some failure.visit ∧
      host.raised? info (host.runPipeline info failure.depth) failure.visit =
        some failure.cause := by
  induction h with
  | raised last raises _ _ => exact ⟨last, raises⟩
  | passed _ _ _ _ _ ih => exact ih

/-- The scope in which a failure was raised is the run itself, or the brick of the last step that
another scope reached asked for it. -/
theorem scope_eq_or_asked {depth : Nat} {call : Call σ} {failure : Failure σ}
    (h : host.FailsWith info depth call failure) :
    (failure.scope = call ∧ failure.depth + 1 = depth) ∨
      ∃ outer asking,
        (host.scope info (host.runPipeline info (failure.depth + 1)) outer).getLast? =
            some asking ∧
          failure.scope ∈ host.calls info (host.runPipeline info (failure.depth + 1)) asking := by
  induction h with
  | raised _ _ _ _ => exact Or.inl ⟨rfl, rfl⟩
  | @passed depth call below visit failure left last asked _ _ _ ih =>
    refine Or.inr ?_
    -- Either this very step asked for the scope, or a step further in did.
    rcases ih with ⟨hscope, hdepth⟩ | hasked
    · refine ⟨call, visit, ?_⟩
      show (host.scope info (host.runPipeline info (failure.depth + 1)) call).getLast? =
          some visit ∧
        failure.scope ∈ host.calls info (host.runPipeline info (failure.depth + 1)) visit
      rw [hscope, hdepth]
      exact ⟨last, asked⟩
    · exact hasked

/-- A failure has one context layer, put on by the step that raised it; the steps around that step
change at most its mark. -/
theorem wrapped {depth : Nat} {call : Call σ} {failure : Failure σ}
    (h : host.FailsWith info depth call failure) :
    ∀ stage ∈ failure.stages, ∃ alerted,
      stage.error =
        .context failure.visit.step.id failure.visit.context.bindings alerted failure.cause := by
  induction h with
  | raised _ raises plain leaves =>
    intro stage hm
    obtain rfl := List.mem_singleton.1 hm
    rw [host.leave_of_raised info _ raises leaves]
    exact leave_plain info _ _ plain
  | @passed depth call below visit failure left last asked failed raises leaves ih =>
    intro stage hm
    rcases List.mem_append.1 hm with hm | hm
    · exact ih stage hm
    · obtain rfl := List.mem_singleton.1 hm
      obtain ⟨alerted, ha⟩ := ih _ (List.getLast_mem failed.stages_ne_nil)
      rw [host.leave_of_raised info _ raises leaves, failure.error_eq_getLast failed.stages_ne_nil,
        ha]
      exact leave_context info _ _ _ _ _ _

theorem error_wrapped {depth : Nat} {call : Call σ} {failure : Failure σ}
    (h : host.FailsWith info depth call failure) :
    ∃ alerted, failure.error =
      .context failure.visit.step.id failure.visit.context.bindings alerted failure.cause := by
  obtain ⟨alerted, ha⟩ := h.wrapped _ (List.getLast_mem h.stages_ne_nil)
  refine ⟨alerted, ?_⟩
  rw [failure.error_eq_getLast h.stages_ne_nil, ha]

/-- The failure that a run fails with is its answer. -/
theorem answer {depth : Nat} {call : Call σ} {failure : Failure σ}
    (h : host.FailsWith info depth call failure) :
    (call.run (host.runPipeline info depth)).answer = some (.error failure.error) := by
  cases h with
  | raised last _ _ leaves =>
    rw [host.run_of_last_error info call last leaves]
    rfl
  | passed last _ _ _ leaves =>
    rw [host.run_of_last_error info call last leaves, Failure.error_past]

end FailsWith

/-- What a step came to before it was wrapped: a plain failure of its own, or the failure of a
sub-pipeline that its brick ran. -/
theorem raised_plain_or_below (plain : host.registry.RaisesPlain) (nested : Runner σ)
    {visit : Visit σ} {error : Error} (raises : host.raised? info nested visit = some error) :
    error.isContext = false ∨ ∃ below ∈ host.calls info nested visit,
      (below.run nested).answer = some (.error error) := by
  revert raises
  unfold raised? calls
  cases hp : host.prepared info visit with
  | failed args failure =>
    intro raises
    cases raises
    exact Or.inl (host.prepare_plain _ _ _ _ hp)
  | skipped => intro raises; cases raises
  | ready brick args =>
    intro raises
    dsimp only at raises ⊢
    split at raises
    · rename_i failure hanswer
      cases raises
      have hbrick := plain _ brick (host.ready_spec _ _ _ _ hp).1
      by_cases hc : error.isContext = true
      · rcases Routine.met_of_exec nested _ visit.context _ [] visit.state (hbrick args _)
          hanswer hc with hm | hm
        · cases hm
        · exact Or.inr hm
      · exact Or.inl (by simpa using hc)
    · cases raises

/-- Every run that fails fails with a failure that was raised somewhere below it. -/
theorem exists_failsWith (plain : host.registry.RaisesPlain) {depth : Nat} (call : Call σ)
    {error : Error} (h : (call.run (host.runPipeline info depth)).answer = some (.error error)) :
    ∃ failure, host.FailsWith info depth call failure := by
  induction depth generalizing call error with
  | zero => cases h
  | succ depth ih =>
    obtain ⟨earlier, visit, hscope, -, leaves⟩ := host.scope_of_error info call h
    have last : (host.scope info (host.runPipeline info depth) call).getLast? = some visit := by
      rw [hscope, List.getLast?_concat]
    cases raises : host.raised? info (host.runPipeline info depth) visit with
    | none =>
      have hok := host.visitRun_answer info _ visit leaves
      rw [raises] at hok
      obtain ⟨value, hvalue⟩ := hok
      cases hvalue
    | some cause =>
      rcases raised_plain_or_below plain _ raises with hcause | ⟨below, asked, hbelow⟩
      · exact ⟨_, .raised last raises hcause leaves⟩
      · obtain ⟨failure, failed⟩ := ih below hbelow
        obtain rfl : cause = failure.error :=
          Except.error.inj (Option.some.inj (hbelow.symm.trans failed.answer))
        exact ⟨_, .passed last asked failed raises leaves⟩

variable (host info)

/-- If no brick puts a context layer on a failure itself, a run that fails does so with one context
layer around a failure without one. The layer names the innermost failing step, its cause is what
that step raised, and its bindings are those that the scope of the step started with, extended in
order by the outputs of the steps before it in that scope. The steps around it change at most the
mark. -/
theorem runPipeline_failure (plain : host.registry.RaisesPlain) (depth : Nat) (steps : Pipeline)
    (ctx : Context) (state : σ) {error : Error}
    (failed : (host.runPipeline info depth steps ctx state).answer = some (.error error)) :
    (∃ failure, host.FailsWith info depth (.root steps ctx state) failure) ∧
      ∀ failure, host.FailsWith info depth (.root steps ctx state) failure →
        failure.cause.isContext = false ∧
        error = .context failure.visit.step.id failure.visit.context.bindings error.isAlerted
          failure.cause ∧
        host.raised? info (host.runPipeline info failure.depth) failure.visit =
          some failure.cause ∧
        (failure.scope = .root steps ctx state ∨
          ∃ outer asking,
            (host.scope info (host.runPipeline info (failure.depth + 1)) outer).getLast? =
                some asking ∧
              failure.scope ∈ host.calls info (host.runPipeline info (failure.depth + 1)) asking ∧
              failure.scope.caller = asking.context) ∧
        (∃ earlier,
          host.scope info (host.runPipeline info failure.depth) failure.scope =
            earlier ++ [failure.visit] ∧
          failure.visit.context = earlier.foldl (fun ctx before => contextAfter before.step ctx
            (host.value? info (host.runPipeline info failure.depth) before))
            failure.scope.context) ∧
        ∀ stage ∈ failure.stages, stage.error.withAlerted error.isAlerted = error := by
  refine ⟨exists_failsWith plain (.root steps ctx state) failed, fun failure h => ?_⟩
  obtain rfl : error = failure.error :=
    Except.error.inj (Option.some.inj (failed.symm.trans h.answer))
  obtain ⟨alerted, herror⟩ := h.error_wrapped
  obtain ⟨hlast, hraised⟩ := h.origin
  refine ⟨h.cause_plain, ?_, hraised, ?_, ?_, ?_⟩
  · rw [herror]
    rfl
  · rcases h.scope_eq_or_asked with ⟨hscope, -⟩ | ⟨outer, asking, hlast, hasked⟩
    · exact Or.inl hscope
    · exact Or.inr ⟨outer, asking, hlast, hasked, host.caller_of_mem_stepCalls info _ hasked⟩
  · obtain ⟨earlier, hscope⟩ := List.getLast?_eq_some_iff.1 hlast
    exact ⟨earlier, hscope, host.scope_context info _ failure.scope hscope⟩
  · intro stage hm
    obtain ⟨marked, hstage⟩ := h.wrapped stage hm
    rw [hstage, herror]
    rfl

theorem runPipeline_failure_sample :
    ∃ error failure, Sample.ran.answer = some (.error error) ∧
      Sample.host.FailsWith Sample.info 2 (.root Sample.steps .empty ()) failure ∧
      failure.cause.isContext = false ∧
      error = .context failure.visit.step.id failure.visit.context.bindings error.isAlerted
        failure.cause := by
  obtain ⟨error, failed⟩ := Sample.ran_answer
  obtain ⟨⟨failure, fails⟩, hall⟩ :=
    Sample.host.runPipeline_failure Sample.info Registry.raisesPlain_standard 2 Sample.steps .empty
      () failed
  obtain ⟨hcause, hcontext, -⟩ := hall failure fails
  exact ⟨error, failure, failed, fails, hcause, hcontext⟩

end Host
end BrickPipeline
