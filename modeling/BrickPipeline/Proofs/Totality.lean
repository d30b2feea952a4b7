import BrickPipeline.Proofs.Direct

/-!
The direct interpreter has an answer on every pipeline, in every context and state.
-/
namespace BrickPipeline

variable {σ α β : Type}

/-- Whether a computation has an answer in every state. -/
def Exec.Answers (exec : Exec σ α) : Prop := ∀ state, ∃ answer, (exec state).answer = some answer

namespace Exec

theorem answers_done (answer : α) : (done answer : Exec σ α).Answers := fun _ => ⟨answer, rfl⟩

theorem answers_emit (event : Event) : (emit event : Exec σ Unit).Answers := fun _ => ⟨(), rfl⟩

theorem answers_log (span : Option Log.Span) (entry : Log.Entry) :
    (log span entry : Exec σ Unit).Answers := answers_emit _

theorem Answers.bind {first : Exec σ α} {next : α → Exec σ β} (hf : first.Answers)
    (hn : ∀ answer, (next answer).Answers) : (first.bind next).Answers := by
  intro state
  obtain ⟨answer, ha⟩ := hf state
  rw [bind_apply_of_answer ha]
  exact hn answer _

end Exec

theorem Routine.answers_of_callFree {routine : Routine σ α} (h : routine.CallFree)
    (nested : Runner σ) (span : Option Log.Span) (ctx : Context) :
    (routine.exec nested span ctx).Answers := by
  induction routine with
  | done answer => exact Exec.answers_done answer
  | log entry _ ih => exact (Exec.answers_log span entry).bind fun _ => ih h
  | wait duration _ ih => exact (Exec.answers_emit (.wait duration)).bind fun _ => ih h
  | call _ _ _ => exact h.elim
  | get _ ih => exact fun state => ih state (h state) state
  | set left _ ih => exact fun _ => ih h left

namespace Host

variable (host : Host σ) (info : RunInfo)

theorem answers_fail (step : Step) (index : Nat) (ctx : Context) (args : Json) (error : Error) :
    (host.fail info step index ctx args error).Answers :=
  fun state => ⟨_, (host.fail_run info step index ctx args error state).1⟩

/-- A step has an answer if its brick, once it is ready to run, has one. -/
theorem answers_stepBy {runBrick : Brick σ → Json → Exec σ (Except Error Json)} {step : Step}
    {index : Nat} {ctx : Context} {running : Json}
    (hr : ∀ brick args, host.prepare info.apiVersion step ctx running = .ready brick args →
      (runBrick brick args).Answers) :
    (host.stepBy info runBrick step index ctx running).Answers := by
  unfold stepBy
  cases h : host.prepare info.apiVersion step ctx running with
  | failed args error => exact host.answers_fail info step index ctx args error
  | skipped =>
    exact (Exec.answers_log _ _).bind fun _ => (Exec.answers_emit _).bind fun _ =>
      Exec.answers_done _
  | ready brick args =>
    refine (Exec.answers_log _ _).bind fun _ => (hr brick args h).bind fun answer => ?_
    cases answer with
    | error error => exact host.answers_fail info step index ctx args error
    | ok value =>
      exact (Exec.answers_log _ _).bind fun _ => (Exec.answers_emit _).bind fun _ =>
        Exec.answers_done _

end Host

namespace Direct

/-- Whether the sub-pipelines of a step have answers. -/
def Answering (body? : String → Option (Body σ)) : Prop :=
  ∀ name body, body? name = some body → ∀ ctx bindings, (body ctx bindings).Answers

section Control

variable (span : Option Log.Span) (ctx : Context) (args : Json) {body? : String → Option (Body σ)}

theorem answers_ifElse (h : Answering body?) : (ifElse span ctx args body?).Answers := by
  unfold ifElse
  refine (Exec.answers_log _ _).bind fun _ => ?_
  split
  · rename_i body hb
    exact h _ body hb ctx []
  · exact Exec.answers_done _

theorem answers_each {body : List (String × Json) → Exec σ (Except Error Json)}
    (h : ∀ bindings, (body bindings).Answers) (key : String) (elements : List Json) (index : Nat)
    (last : Json) : (each span body key elements index last).Answers := by
  induction elements generalizing index last with
  | nil => exact Exec.answers_done _
  | cons element rest ih =>
    refine (Exec.answers_log _ _).bind fun _ => (h _).bind fun answer => ?_
    cases answer with
    | error error => exact Exec.answers_done _
    | ok value => exact ih _ _

theorem answers_forEach (h : Answering body?) : (forEach span ctx args body?).Answers := by
  unfold forEach
  split
  · exact Exec.answers_done _
  · exact Exec.answers_done _
  · rename_i body key elements hb _
    exact answers_each span (h "body" body hb ctx) key elements 0 .null

theorem answers_tryExcept (h : Answering body?) : (tryExcept span ctx args body?).Answers := by
  unfold tryExcept
  split
  · exact Exec.answers_done _
  · exact Exec.answers_done _
  · rename_i attempt key hb _
    refine (h "try" attempt hb ctx []).bind fun answer => ?_
    cases answer with
    | ok value => exact Exec.answers_done _
    | error error =>
      refine (Exec.answers_log _ _).bind fun _ => ?_
      split
      · exact Exec.answers_done _
      · rename_i handler hb
        exact h "except" handler hb ctx _

theorem answers_attempts {body : Exec σ (Except Error Json)} (h : body.Answers) (policy : Backoff)
    (label : String) (maxAttempts spare failures : Nat) :
    (attempts span body policy label maxAttempts spare failures).Answers := by
  have ha : ∀ number, (announce span number : Exec σ Unit).Answers := by
    intro number
    unfold announce
    split
    · exact Exec.answers_done _
    · exact Exec.answers_log _ _
  induction spare generalizing failures with
  | zero =>
    unfold attempts
    refine (ha failures).bind fun _ => h.bind fun answer => ?_
    cases answer with
    | ok value => exact Exec.answers_done _
    | error error => exact (Exec.answers_log _ _).bind fun _ => Exec.answers_done _
  | succ spare ih =>
    unfold attempts
    refine (ha failures).bind fun _ => h.bind fun answer => ?_
    cases answer with
    | ok value => exact Exec.answers_done _
    | error error =>
      exact (Exec.answers_log _ _).bind fun _ => (Exec.answers_emit _).bind fun _ =>
        ih (failures + 1)

theorem answers_retry (h : Answering body?) : (retry span ctx args body?).Answers := by
  unfold retry
  split
  · exact Exec.answers_done _
  · exact Exec.answers_done _
  · rename_i body maxAttempts policy hb _
    exact answers_attempts span (h "body" body hb ctx []) policy _ _ _ _

theorem answers_control (h : Answering body?) (found : Control) :
    (control span ctx args body? found).Answers := by
  cases found with
  | ifElse => exact answers_ifElse span ctx args h
  | forEach => exact answers_forEach span ctx args h
  | tryExcept => exact answers_tryExcept span ctx args h
  | retry => exact answers_retry span ctx args h

end Control

variable {host : Host σ} {info : RunInfo} {known : Control → Bool}

theorem answers_stepWith (knows : host.registry.Knows known) (step : Step)
    {body? : String → Option (Body σ)} (h : Answering body?) (index : Nat) (ctx : Context)
    (running : Json) : (stepWith host info known step body? index ctx running).Answers := by
  unfold stepWith
  refine (host.outlining _).answers_stepBy info fun brick args hready => ?_
  have hb : host.registry.get? step.id.text = some brick :=
    ((host.outlining _).ready_spec _ step ctx running hready).1
  have hk := knows step.id brick hb
  unfold runBrick
  cases hc : Registry.control? known step.id with
  | none =>
    rw [hc] at hk
    exact Routine.answers_of_callFree (hk args _) _ _ _
  | some found => exact answers_control _ ctx args h found

mutual

/-- Every direct run has an answer. -/
theorem answers_steps (knows : host.registry.Knows known) : ∀ (pipeline : List Step) (index : Nat)
    (ctx : Context) (running last : Json),
    (steps host info known pipeline index ctx running last).Answers
  | [], _, _, _, _ => by
    unfold steps
    exact Exec.answers_done _
  | step :: rest, index, ctx, running, last => by
    unfold steps
    refine (answers_runStep knows step index ctx running).bind fun answer => ?_
    cases answer with
    | error error => exact Exec.answers_done _
    | ok value => exact answers_steps knows rest _ _ _ _

theorem answers_runStep (knows : host.registry.Knows known) : ∀ (step : Step) (index : Nat)
    (ctx : Context) (running : Json), (runStep host info known step index ctx running).Answers
  | .mk _ config _ _ _ _ _ _, index, ctx, running =>
    answers_stepWith knows _ (answering_bodies knows config) index ctx running

theorem answering_bodies (knows : host.registry.Knows known) : ∀ config : List (String × Expr),
    Answering (bodies host info known config)
  | [], _, _, h, _, _ => by cases h
  | (key, value) :: rest, name, found, h, ctx, bindings => by
    unfold bodies at h
    by_cases hk : key = name
    · rw [if_pos hk] at h
      exact answers_body knows value found h ctx bindings
    · rw [if_neg hk] at h
      exact answering_bodies knows rest name found h ctx bindings

theorem answers_body (knows : host.registry.Knows known) : ∀ (value : Expr) (found : Body σ),
    body host info known value = some found → ∀ ctx bindings, (found ctx bindings).Answers
  | .pipeline sub environment, _, h, ctx, bindings => by
    cases h
    exact answers_steps knows sub _ _ _ _
  | .literal _, _, h, _, _ | .template .., _, h, _, _ | .var _, _, h, _, _
  | .defer _, _, h, _, _ | .array _, _, h, _, _ | .object _, _, h, _, _ => by cases h

end

theorem answers_runPipeline (knows : host.registry.Knows known) (pipeline : Pipeline)
    (ctx : Context) : (runPipeline host info known pipeline ctx).Answers :=
  answers_steps knows pipeline _ _ _ _

end Direct
end BrickPipeline
