import BrickPipeline.Proofs.History

/-!
The depth of a run. It only bounds how far pipelines may nest: a run that has an answer is the same
run at every greater depth, so any two depths that are enough agree.
-/
namespace BrickPipeline

variable {σ α β : Type}

/-- Whether a computation does what another one does wherever that has an answer. -/
def Exec.Extends (more less : Exec σ α) : Prop :=
  ∀ state, (less state).answer ≠ none → more state = less state

namespace Exec

theorem Extends.refl (exec : Exec σ α) : exec.Extends exec := fun _ _ => rfl

theorem Extends.bind {more less : Exec σ α} {next other : α → Exec σ β}
    (h : more.Extends less) (hn : ∀ answer, (next answer).Extends (other answer)) :
    (more.bind next).Extends (less.bind other) := by
  intro state hanswer
  cases ha : (less state).answer with
  | none =>
    rw [bind_apply_of_none ha] at hanswer
    exact absurd rfl hanswer
  | some answer =>
    have hmore : more state = less state := by
      apply h state
      rw [ha]
      exact Option.some_ne_none answer
    rw [bind_apply_of_answer ha] at hanswer ⊢
    have hnext := hn answer (less state).state hanswer
    have ham : (more state).answer = some answer := by rw [hmore, ha]
    rw [bind_apply_of_answer ham, hmore, hnext]

end Exec

/-- Whether one way to run pipelines goes at least as far as another. -/
def Runner.Extends (more less : Runner σ) : Prop :=
  ∀ steps ctx, (more steps ctx).Extends (less steps ctx)

/-- A routine goes as far as the way to run pipelines does. -/
theorem Routine.exec_extends {more less : Runner σ} (h : Runner.Extends more less)
    (span : Option Log.Span) (ctx : Context) (routine : Routine σ α) :
    (routine.exec more span ctx).Extends (routine.exec less span ctx) := by
  induction routine with
  | done answer => exact .refl _
  | log entry _ ih => exact (Exec.Extends.refl (Exec.log span entry)).bind fun _ => ih
  | wait duration _ ih =>
    exact (Exec.Extends.refl (Exec.emit (.wait duration))).bind fun _ => ih
  | call sub _ _ ih => exact (h sub.steps _).bind fun answer => ih answer
  | get _ ih => exact fun state => ih state state
  | set left _ ih => exact fun _ => ih left

namespace Host

variable (host : Host σ) (info : RunInfo)

theorem runStep_extends {more less : Runner σ} (h : Runner.Extends more less) (step : Step)
    (index : Nat) (ctx : Context) (running : Json) :
    (host.runStep info more step index ctx running).Extends
      (host.runStep info less step index ctx running) := by
  unfold runStep
  cases host.prepare info.apiVersion step ctx running with
  | failed args error => exact .refl _
  | skipped => exact .refl _
  | ready brick args =>
    -- Only what the brick asks for depends on how pipelines are run.
    have hbrick := Routine.exec_extends h (some (.brick step.id index)) ctx
      (brick.run args (host.access info step brick ctx))
    apply (Exec.Extends.refl _).bind
    intro _
    apply hbrick.bind
    intro answer
    exact .refl _

theorem runSteps_extends {more less : Runner σ} (h : Runner.Extends more less) (steps : Pipeline)
    (index : Nat) (ctx : Context) (running last : Json) :
    (host.runSteps info more steps index ctx running last).Extends
      (host.runSteps info less steps index ctx running last) := by
  induction steps generalizing index ctx running last with
  | nil => exact .refl _
  | cons step rest ih =>
    apply (host.runStep_extends info h step index ctx running).bind
    intro answer
    rcases answer with error | _ | value
    · exact .refl _
    · exact ih (index + 1) ctx running last
    · dsimp only
      cases step.outputKey with
      | none => exact ih (index + 1) ctx value value
      | some outputKey => exact ih (index + 1) (ctx.bindOutput outputKey value) running value

/-- A greater depth goes at least as far. -/
theorem runPipeline_extends {less more : Nat} (h : less ≤ more) :
    Runner.Extends (host.runPipeline info more) (host.runPipeline info less) := by
  induction less generalizing more with
  | zero =>
    intro steps ctx state hanswer
    exact absurd rfl hanswer
  | succ less ih =>
    intro steps ctx
    obtain ⟨deep, rfl⟩ : ∃ deep, more = deep + 1 := Nat.exists_eq_add_of_le' (by omega)
    have hbelow : Runner.Extends (host.runPipeline info deep) (host.runPipeline info less) := by
      apply ih
      omega
    exact host.runSteps_extends info hbelow steps 0 ctx _ .null

/-- Two runs of one pipeline that both have an answer are the same run. -/
theorem runPipeline_agree {depth other : Nat} {steps : Pipeline} {ctx : Context} {state : σ}
    (h : (host.runPipeline info depth steps ctx state).answer ≠ none)
    (ho : (host.runPipeline info other steps ctx state).answer ≠ none) :
    host.runPipeline info depth steps ctx state = host.runPipeline info other steps ctx state := by
  rcases Nat.le_total depth other with hle | hle
  · exact (host.runPipeline_extends info hle steps ctx state h).symm
  · exact host.runPipeline_extends info hle steps ctx state ho

end Host
end BrickPipeline
