import BrickPipeline.Run.Pipeline

/-!
What a run did: the steps that it reached, and the runs of sub-pipelines that their bricks asked
for. A run of depth `d + 1` is told by its own steps and by runs of depth `d`, so facts about whole
runs go by induction on the depth.
-/
namespace BrickPipeline

variable {σ α : Type}

/-- A way to run pipelines. -/
abbrev Runner (σ : Type) := Pipeline → Context → Exec σ (Except Error Json)

/-- A pipeline that is asked to run, with the state of the host at that moment. -/
structure Call (σ : Type) where
  sub : SubPipeline
  /-- The context of whoever asks. -/
  caller : Context
  bindings : List (String × Json)
  state : σ

namespace Call

/-- The context that the scope starts with: the captured environment or the caller's context, and
the bindings that were added. -/
def context (call : Call σ) : Context :=
  (call.sub.environment.getD call.caller).bindAll call.bindings

/-- Run the pipeline. -/
def run (nested : Runner σ) (call : Call σ) : Ran σ (Except Error Json) :=
  nested call.sub.steps call.context call.state

/-- A pipeline that runs in a context as it is. -/
def root (steps : Pipeline) (ctx : Context) (state : σ) : Call σ := ⟨⟨steps, none⟩, ctx, [], state⟩

end Call

namespace Event

/-- Whether an event leaves the host: a trace record or an alert. -/
def isReport : Event → Bool
  | .trace _ | .alert _ => true
  | _ => false

/-- The trace records and alerts among events. -/
def reports (events : List Event) : List Event := events.filter isReport

@[simp] theorem reports_nil : reports [] = [] := rfl

@[simp] theorem reports_append (xs ys : List Event) :
    reports (xs ++ ys) = reports xs ++ reports ys := List.filter_append ..

@[simp] theorem reports_log (line : Log.Line) (events : List Event) :
    reports (.log line :: events) = reports events := rfl

@[simp] theorem reports_wait (duration : Duration) (events : List Event) :
    reports (.wait duration :: events) = reports events := rfl

@[simp] theorem reports_trace (made : Trace.Record) (events : List Event) :
    reports (.trace made :: events) = .trace made :: reports events := rfl

@[simp] theorem reports_alert (sent : Alert) (events : List Event) :
    reports (.alert sent :: events) = .alert sent :: reports events := rfl

@[simp] theorem records_reports (events : List Event) :
    records (reports events) = records events := by
  induction events with
  | nil => rfl
  | cons event rest ih => cases event <;> simpa [records] using ih

@[simp] theorem alerts_reports (events : List Event) :
    alerts (reports events) = alerts events := by
  induction events with
  | nil => rfl
  | cons event rest ih => cases event <;> simpa [alerts] using ih

theorem records_flatMap {β : Type} (xs : List β) (f : β → List Event) :
    records (xs.flatMap f) = xs.flatMap fun x => records (f x) := List.filterMap_flatMap ..

theorem alerts_flatMap {β : Type} (xs : List β) (f : β → List Event) :
    alerts (xs.flatMap f) = xs.flatMap fun x => alerts (f x) := List.filterMap_flatMap ..

end Event

namespace Routine

/-- The sub-pipelines that a routine asks to run, in order, when it is carried out. -/
def calls (nested : Runner σ) (ctx : Context) : Routine σ α → σ → List (Call σ)
  | done _, _ => []
  | log _ next, state => calls nested ctx next state
  | wait _ next, state => calls nested ctx next state
  | call sub bindings next, state =>
    let asked : Call σ := ⟨sub, ctx, bindings, state⟩
    asked :: match (asked.run nested).answer with
      | none => []
      | some answer => calls nested ctx (next answer) (asked.run nested).state
  | get next, state => calls nested ctx (next state) state
  | set state next, _ => calls nested ctx next state

/-- A sub-pipeline that is asked for runs first, and what is left of the routine on its answer. -/
theorem exec_call (nested : Runner σ) (span : Option Log.Span) (ctx : Context) (sub : SubPipeline)
    (bindings : List (String × Json)) (next : Except Error Json → Routine σ α) (state : σ) :
    (call sub bindings next).exec nested span ctx state =
      let ran := Call.run nested ⟨sub, ctx, bindings, state⟩
      match ran.answer with
      | none => ⟨ran.events, ran.state, none⟩
      | some answer =>
        let rest := (next answer).exec nested span ctx ran.state
        ⟨ran.events ++ rest.events, rest.state, rest.answer⟩ := by
  have hr : nested sub.steps ((sub.environment.getD ctx).bindAll bindings) state =
    Call.run nested ⟨sub, ctx, bindings, state⟩ := rfl
  simp only [exec, Exec.bind, hr]
  cases (Call.run nested ⟨sub, ctx, bindings, state⟩).answer <;> rfl

theorem caller_of_mem_calls (nested : Runner σ) (ctx : Context) (routine : Routine σ α)
    (state : σ) : ∀ call ∈ routine.calls nested ctx state, call.caller = ctx := by
  induction routine generalizing state with
  | done _ => simp [calls]
  | log _ _ ih => exact ih state
  | wait _ _ ih => exact ih state
  | call sub bindings next ih =>
    intro call hm
    simp only [calls, List.mem_cons] at hm
    rcases hm with rfl | hm
    · rfl
    · split at hm
      · cases hm
      · exact ih _ _ call hm
  | get _ ih => exact ih state state
  | set left _ ih => exact ih left

/-- A routine with an answer had one from every sub-pipeline that it ran. -/
theorem answered_of_mem_calls (nested : Runner σ) (span : Option Log.Span) (ctx : Context)
    (routine : Routine σ α) (state : σ) {answer : α}
    (h : (routine.exec nested span ctx state).answer = some answer) :
    ∀ call ∈ routine.calls nested ctx state, ∃ answer, (call.run nested).answer = some answer := by
  induction routine generalizing state with
  | done _ => simp [calls]
  | log _ _ ih => exact ih state h
  | wait _ _ ih => exact ih state h
  | call sub bindings next ih =>
    rw [exec_call] at h
    simp only [calls]
    cases ha : (Call.run nested ⟨sub, ctx, bindings, state⟩).answer with
    | none => simp [ha] at h
    | some first =>
      simp only [ha] at h
      intro call hm
      rcases List.mem_cons.1 hm with rfl | hm
      · exact ⟨first, ha⟩
      · exact ih first _ h call hm
  | get _ ih => exact ih state state h
  | set left _ ih => exact ih left h

/-- A routine and then another ask for what the first asks for and, if that has an answer, for what
the second asks for on it. -/
theorem calls_bind {β : Type} (nested : Runner σ) (span : Option Log.Span) (ctx : Context)
    (routine : Routine σ α) (next : α → Routine σ β) (state : σ) :
    (routine.bind next).calls nested ctx state =
      routine.calls nested ctx state ++
        match (routine.exec nested span ctx state).answer with
        | none => []
        | some answer =>
          (next answer).calls nested ctx (routine.exec nested span ctx state).state := by
  induction routine generalizing state with
  | done _ => rfl
  | log _ _ ih => exact ih state
  | wait _ _ ih => exact ih state
  | call sub bindings _ ih =>
    rw [exec_call]
    simp only [Routine.bind, calls]
    cases (Call.run nested ⟨sub, ctx, bindings, state⟩).answer with
    | none => simp
    | some answer => simp [ih]
  | get _ ih => exact ih state state
  | set left _ ih => exact ih left

/-- A routine reports nothing itself. -/
theorem reports_exec (nested : Runner σ) (span : Option Log.Span) (ctx : Context)
    (routine : Routine σ α) (state : σ) :
    Event.reports (routine.exec nested span ctx state).events =
      (routine.calls nested ctx state).flatMap fun call =>
        Event.reports (call.run nested).events := by
  induction routine generalizing state with
  | done _ => rfl
  | log _ _ ih => simpa [exec, calls, Exec.log, Exec.emit, Exec.bind] using ih state
  | wait _ _ ih => simpa [exec, calls, Exec.emit, Exec.bind] using ih state
  | call sub bindings next ih =>
    rw [exec_call]
    simp only [calls]
    cases (Call.run nested ⟨sub, ctx, bindings, state⟩).answer with
    | none => simp
    | some answer => simp [ih]
  | get _ ih => exact ih state state
  | set left _ ih => exact ih left

end Routine

/-- A step that a run has reached, with all it depends on. -/
structure Visit (σ : Type) where
  step : Step
  index : Nat
  context : Context
  /-- The value that is carried on. -/
  running : Json
  state : σ

namespace Host

/-- A failure as it leaves a step: wrapped, and marked if the step has sent an alert. -/
def leave (info : RunInfo) (step : Step) (ctx : Context) (error : Error) : Error :=
  match alertFor? info step (wrap step ctx error) with
  | none => wrap step ctx error
  | some _ => markAlerted (wrap step ctx error)

/-- The context after a step that has left a value or was skipped. -/
def contextAfter (step : Step) (ctx : Context) (value : Option Json) : Context :=
  match value, step.outputKey with
  | some value, some outputKey => ctx.bindOutput outputKey value
  | _, _ => ctx

/-- The value that is carried on after a step. -/
def runningAfter (step : Step) (running : Json) (value : Option Json) : Json :=
  match value, step.outputKey with
  | some value, none => value
  | _, _ => running

variable (host : Host σ) (info : RunInfo) (nested : Runner σ)

/-- The run of a step that was reached. -/
def visitRun (visit : Visit σ) : Ran σ (Except Error (Option Json)) :=
  host.runStep info nested visit.step visit.index visit.context visit.running visit.state

/-- What was decided before the brick of the step ran. -/
def prepared (visit : Visit σ) : Prepared σ :=
  host.prepare info.apiVersion visit.step visit.context visit.running

/-- The routine of a brick for a step that was reached. -/
def routine (visit : Visit σ) (brick : Brick σ) (args : Json) : Routine σ (Except Error Json) :=
  brick.run args (host.access info visit.step brick visit.context)

/-- The run of the brick of a step that was reached. -/
def brickRun (visit : Visit σ) (brick : Brick σ) (args : Json) : Ran σ (Except Error Json) :=
  (host.routine info visit brick args).exec nested (some (.brick visit.step.id visit.index))
    visit.context visit.state

/-- The sub-pipelines that the brick of the step asked to run. -/
def calls (visit : Visit σ) : List (Call σ) :=
  match host.prepared info visit with
  | .ready brick args => (host.routine info visit brick args).calls nested visit.context visit.state
  | _ => []

/-- The failure that the step came to, before anything was put around it. -/
def raised? (visit : Visit σ) : Option Error :=
  match host.prepared info visit with
  | .failed _ error => some error
  | .skipped => none
  | .ready brick args =>
    match (host.brickRun info nested visit brick args).answer with
    | some (.error error) => some error
    | _ => none

/-- The alert that the step itself sent. -/
def ownAlert? (visit : Visit σ) : Option Alert := do
  alertFor? info visit.step (wrap visit.step visit.context (← host.raised? info nested visit))

/-- The rendered arguments, null if there are none. -/
def renderedArgs (visit : Visit σ) : Json :=
  match host.prepared info visit with
  | .failed args _ | .ready _ args => args
  | .skipped => .null

/-- How a step ended, by its answer. -/
def outcome : Except Error (Option Json) → Trace.Outcome
  | .ok (some value) => .output value
  | .ok none => .skipped
  | .error error => .error error.toJson

/-- The value that a step left. -/
def value? (visit : Visit σ) : Option Json :=
  match (host.visitRun info nested visit).answer with
  | some (.ok value) => value
  | _ => none

/-- The steps that a run of the remaining steps reaches. -/
def visits : Pipeline → Nat → Context → Json → σ → List (Visit σ)
  | [], _, _, _, _ => []
  | step :: rest, index, ctx, running, state =>
    let visit : Visit σ := ⟨step, index, ctx, running, state⟩
    let ran := host.visitRun info nested visit
    visit :: match ran.answer with
      | some (.ok value) =>
        visits rest (index + 1) (contextAfter step ctx value) (runningAfter step running value)
          ran.state
      | _ => []

/-- The steps that a call reaches in its own scope. -/
def scope (call : Call σ) : List (Visit σ) :=
  host.visits info nested call.sub.steps 0 call.context
    ((call.context.get? inputKey).getD .null) call.state

/-- What is ready to run is the brick that is registered under the identifier of the step, with
the arguments that were rendered for it. -/
theorem ready_spec (version : ApiVersion) (step : Step) (ctx : Context) (running : Json)
    {brick : Brick σ} {args : Json}
    (h : host.prepare version step ctx running = .ready brick args) :
    host.registry.get? step.id.text = some brick ∧ ∃ mode renderCtx,
      Render.arguments host.renderers mode renderCtx step.config = .ok args := by
  unfold prepare at h
  split at h
  · cases h
  · dsimp only at h
    split at h
    · cases h
    · cases h
    · unfold prepareArguments at h
      split at h
      · cases h
      · rename_i found hfound
        split at h
        · cases h
        · rename_i rendered hr
          split at h
          · cases h
            exact ⟨hfound, _, _, hr⟩
          · cases h

@[simp] theorem reports_alerter_entries (entries : List Log.Entry) (span : Option Log.Span) :
    Event.reports (entries.map fun entry => .log ⟨entry, span⟩) = [] := by
  induction entries with
  | nil => rfl
  | cons _ _ ih => simpa using ih

/-- Sending an alert reports the alert once, whether or not it can be delivered. -/
theorem sendAlert_run (span : Option Log.Span) (step : Step) (alert : Alert) (state : σ) :
    (host.sendAlert span step alert state).answer = some () ∧
      Event.reports (host.sendAlert span step alert state).events = [.alert alert] := by
  unfold sendAlert
  cases h : host.alerter.failure state alert <;>
    simp [Exec.bind_eq, Exec.pure_eq, Exec.bind, Exec.emit, Exec.emitAll, Exec.current, Exec.log,
      Exec.done, h]

/-- A step that fails leaves one failure, at most one alert and exactly one record. -/
theorem fail_run (step : Step) (index : Nat) (ctx : Context) (args : Json) (error : Error)
    (state : σ) :
    (host.fail info step index ctx args error state).answer =
        some (.error (leave info step ctx error)) ∧
      Event.reports (host.fail info step index ctx args error state).events =
        (alertFor? info step (wrap step ctx error)).toList.map Event.alert ++
          [.trace (record info step index args (.error (leave info step ctx error).toJson))] := by
  unfold fail leave
  simp only [Exec.bind_eq, Exec.pure_eq, Exec.log_bind_apply]
  cases h : alertFor? info step (wrap step ctx error) with
  | none => simp [Exec.done_bind, Exec.emit_bind_apply, Exec.done_apply]
  | some alert =>
    obtain ⟨ha, hr⟩ := host.sendAlert_run (some (.brick step.id index)) step alert state
    simp [Exec.bind_apply_of_answer ha, Exec.done_bind, Exec.emit_bind_apply,
      Exec.done_apply, hr]

theorem sendAlert_state (span : Option Log.Span) (step : Step) (alert : Alert) (state : σ) :
    (host.sendAlert span step alert state).state = state := by
  unfold sendAlert
  cases h : host.alerter.failure state alert <;>
    simp [Exec.bind_eq, Exec.pure_eq, Exec.bind, Exec.emit, Exec.emitAll, Exec.current, Exec.log,
      Exec.done, h]

/-- Failing leaves the state of the host as it is. -/
theorem fail_state (step : Step) (index : Nat) (ctx : Context) (args : Json) (error : Error)
    (state : σ) : (host.fail info step index ctx args error state).state = state := by
  unfold fail
  simp only [Exec.bind_eq, Exec.pure_eq, Exec.log_bind_apply]
  cases h : alertFor? info step (wrap step ctx error) with
  | none => rfl
  | some alert =>
    obtain ⟨ha, -⟩ := host.sendAlert_run (some (.brick step.id index)) step alert state
    have hs := host.sendAlert_state (some (.brick step.id index)) step alert state
    simp [Exec.bind_apply_of_answer ha, Exec.done_bind, Exec.emit_bind_apply, Exec.done_apply, hs]

/-- What became of a step that was reached, by what was decided before its brick ran and by the
answer of the brick. -/
inductive Passage (visit : Visit σ) (ran : Ran σ (Except Error (Option Json))) : Prop where
  | refused {args : Json} {error : Error}
    (prepared : host.prepared info visit = .failed args error)
    (answer : ran.answer = some (.error (leave info visit.step visit.context error)))
    (reports : Event.reports ran.events =
      (alertFor? info visit.step (wrap visit.step visit.context error)).toList.map Event.alert ++
        [.trace (record info visit.step visit.index args
          (.error (leave info visit.step visit.context error).toJson))])
  | skipped (prepared : host.prepared info visit = .skipped)
    (answer : ran.answer = some (.ok none))
    (reports : Event.reports ran.events =
      [.trace (record info visit.step visit.index .null .skipped)])
  | tooDeep {brick : Brick σ} {args : Json}
    (prepared : host.prepared info visit = .ready brick args)
    (deep : (host.brickRun info nested visit brick args).answer = none)
    (answer : ran.answer = none)
    (reports : Event.reports ran.events =
      Event.reports (host.brickRun info nested visit brick args).events)
  | failed {brick : Brick σ} {args : Json} {error : Error}
    (prepared : host.prepared info visit = .ready brick args)
    (fails : (host.brickRun info nested visit brick args).answer = some (.error error))
    (answer : ran.answer = some (.error (leave info visit.step visit.context error)))
    (reports : Event.reports ran.events =
      Event.reports (host.brickRun info nested visit brick args).events ++
        (alertFor? info visit.step (wrap visit.step visit.context error)).toList.map Event.alert ++
          [.trace (record info visit.step visit.index args
            (.error (leave info visit.step visit.context error).toJson))])
  | completed {brick : Brick σ} {args : Json} {value : Json}
    (prepared : host.prepared info visit = .ready brick args)
    (completes : (host.brickRun info nested visit brick args).answer = some (.ok value))
    (answer : ran.answer = some (.ok (some value)))
    (reports : Event.reports ran.events =
      Event.reports (host.brickRun info nested visit brick args).events ++
        [.trace (record info visit.step visit.index args (.output value))])

theorem passage (visit : Visit σ) :
    host.Passage info nested visit (host.visitRun info nested visit) := by
  unfold visitRun runStep
  cases hp : host.prepared info visit with
  | failed args error =>
    obtain ⟨ha, hr⟩ :=
      host.fail_run info visit.step visit.index visit.context args error visit.state
    rw [show host.prepare info.apiVersion visit.step visit.context visit.running = _ from hp]
    exact .refused hp ha hr
  | skipped =>
    rw [show host.prepare info.apiVersion visit.step visit.context visit.running = _ from hp]
    exact .skipped hp rfl rfl
  | ready brick args =>
    rw [show host.prepare info.apiVersion visit.step visit.context visit.running = _ from hp]
    have hrun : (brick.run args (host.access info visit.step brick visit.context)).exec nested
        (some (.brick visit.step.id visit.index)) visit.context visit.state =
          host.brickRun info nested visit brick args := rfl
    simp only [Exec.bind_eq, Exec.pure_eq, Exec.log_bind_apply]
    rcases ha : (host.brickRun info nested visit brick args).answer with _ | error | value
    · rw [Exec.bind_apply_of_none (by rw [hrun, ha])]
      exact .tooDeep hp ha rfl (by rw [Event.reports_log, hrun])
    · rw [Exec.bind_apply_of_answer (by rw [hrun, ha])]
      obtain ⟨hl, hr⟩ := host.fail_run info visit.step visit.index visit.context args error
        (host.brickRun info nested visit brick args).state
      refine .failed hp ha hl ?_
      rw [Event.reports_log, Event.reports_append, hrun, hr, List.append_assoc]
    · rw [Exec.bind_apply_of_answer (by rw [hrun, ha])]
      refine .completed hp ha rfl ?_
      rw [Event.reports_log, Event.reports_append, hrun]
      rfl

/-- Only the brick of a step changes the state of the host. -/
theorem visitRun_state (visit : Visit σ) {brick : Brick σ} {args : Json}
    (h : host.prepared info visit = .ready brick args) :
    (host.visitRun info nested visit).state =
      (host.brickRun info nested visit brick args).state := by
  unfold visitRun runStep
  rw [show host.prepare info.apiVersion visit.step visit.context visit.running = _ from h]
  have hrun : (brick.run args (host.access info visit.step brick visit.context)).exec nested
      (some (.brick visit.step.id visit.index)) visit.context visit.state =
        host.brickRun info nested visit brick args := rfl
  simp only [Exec.bind_eq, Exec.pure_eq, Exec.log_bind_apply]
  rcases ha : (host.brickRun info nested visit brick args).answer with _ | error | value
  · rw [Exec.bind_apply_of_none (by rw [hrun, ha]), hrun]
  · rw [Exec.bind_apply_of_answer (by rw [hrun, ha]), hrun]
    exact host.fail_state info visit.step visit.index visit.context args error _
  · rw [Exec.bind_apply_of_answer (by rw [hrun, ha]), hrun]
    rfl

/-- A step whose brick ran answers as the brick did, with its failure as it leaves the step. -/
theorem visitRun_of_ready (visit : Visit σ) {brick : Brick σ} {args : Json}
    (h : host.prepared info visit = .ready brick args) :
    (host.visitRun info nested visit).answer =
      (host.brickRun info nested visit brick args).answer.map fun answer =>
        (answer.map some).mapError (leave info visit.step visit.context) := by
  cases host.passage info nested visit with
  | refused other _ _ => cases other.symm.trans h
  | skipped other _ _ => cases other.symm.trans h
  | tooDeep other deep leaves _ =>
    cases other.symm.trans h
    rw [deep]
    exact leaves
  | failed other fails leaves _ =>
    cases other.symm.trans h
    rw [fails]
    exact leaves
  | completed other completes leaves _ =>
    cases other.symm.trans h
    rw [completes]
    exact leaves

/-- The answer of a step: the failure it came to as it leaves the step, or a value or none. -/
theorem visitRun_answer (visit : Visit σ) {answer : Except Error (Option Json)}
    (h : (host.visitRun info nested visit).answer = some answer) :
    match host.raised? info nested visit with
    | some error => answer = .error (leave info visit.step visit.context error)
    | none => ∃ value, answer = .ok value := by
  unfold raised?
  cases host.passage info nested visit with
  | refused prepared leaves _ =>
    rw [prepared]
    exact Option.some.inj (h.symm.trans leaves)
  | skipped prepared leaves _ =>
    rw [prepared]
    exact ⟨none, Option.some.inj (h.symm.trans leaves)⟩
  | tooDeep _ _ leaves =>
    rw [leaves] at h
    cases h
  | failed prepared fails leaves _ =>
    simp only [prepared, fails]
    exact Option.some.inj (h.symm.trans leaves)
  | completed prepared completes leaves _ =>
    simp only [prepared, completes]
    exact ⟨_, Option.some.inj (h.symm.trans leaves)⟩

/-- A step that came to a failure leaves it. -/
theorem visitRun_of_raised {visit : Visit σ} {error : Error}
    (h : host.raised? info nested visit = some error) :
    (host.visitRun info nested visit).answer =
      some (.error (leave info visit.step visit.context error)) := by
  unfold raised? at h
  cases host.passage info nested visit with
  | refused prepared leaves _ =>
    rw [prepared] at h
    cases h
    exact leaves
  | skipped prepared _ _ =>
    rw [prepared] at h
    cases h
  | tooDeep prepared deep _ =>
    simp only [prepared, deep] at h
    cases h
  | failed prepared fails leaves _ =>
    simp only [prepared, fails] at h
    cases h
    exact leaves
  | completed prepared completes _ _ =>
    simp only [prepared, completes] at h
    cases h

/-- The brick of a step with an answer had one from every sub-pipeline that it ran. -/
theorem answered_of_mem_stepCalls {visit : Visit σ} {answer : Except Error (Option Json)}
    (h : (host.visitRun info nested visit).answer = some answer) :
    ∀ call ∈ host.calls info nested visit, ∃ answer, (call.run nested).answer = some answer := by
  unfold calls
  cases host.passage info nested visit with
  | refused prepared _ _ =>
    rw [prepared]
    nofun
  | skipped prepared _ _ =>
    rw [prepared]
    nofun
  | tooDeep _ _ leaves =>
    rw [leaves] at h
    cases h
  | failed prepared fails _ _ =>
    rw [prepared]
    exact Routine.answered_of_mem_calls nested _ _ _ _ fails
  | completed prepared completes _ _ =>
    rw [prepared]
    exact Routine.answered_of_mem_calls nested _ _ _ _ completes

theorem reports_brickRun (visit : Visit σ) (brick : Brick σ) (args : Json) :
    Event.reports (host.brickRun info nested visit brick args).events =
      ((host.routine info visit brick args).calls nested visit.context visit.state).flatMap
        fun call => Event.reports (call.run nested).events :=
  Routine.reports_exec nested _ visit.context _ visit.state

/-- What a step reports: first what its brick ran, then its alert if it sends one, and last its
one record. -/
theorem reports_visitRun (visit : Visit σ) {answer : Except Error (Option Json)}
    (h : (host.visitRun info nested visit).answer = some answer) :
    Event.reports (host.visitRun info nested visit).events =
      ((host.calls info nested visit).flatMap fun call => Event.reports (call.run nested).events) ++
        (host.ownAlert? info nested visit).toList.map Event.alert ++
        [.trace (record info visit.step visit.index (host.renderedArgs info visit)
          (outcome answer))] := by
  unfold calls ownAlert? raised? renderedArgs
  cases host.passage info nested visit with
  | refused prepared leaves reports =>
    obtain rfl := Option.some.inj (leaves.symm.trans h)
    rw [prepared, reports]
    rfl
  | skipped prepared leaves reports =>
    obtain rfl := Option.some.inj (leaves.symm.trans h)
    rw [prepared, reports]
    rfl
  | tooDeep _ _ leaves =>
    rw [leaves] at h
    cases h
  | failed prepared fails leaves reports =>
    obtain rfl := Option.some.inj (leaves.symm.trans h)
    rw [reports, reports_brickRun]
    simp only [prepared, fails]
    rfl
  | completed prepared completes leaves reports =>
    obtain rfl := Option.some.inj (leaves.symm.trans h)
    rw [reports, reports_brickRun]
    simp [prepared, completes, outcome]

theorem caller_of_mem_stepCalls {visit : Visit σ} {call : Call σ}
    (h : call ∈ host.calls info nested visit) : call.caller = visit.context := by
  unfold calls at h
  split at h
  · exact Routine.caller_of_mem_calls _ _ _ _ call h
  · cases h

/-- A run of steps is a run of the first step and then, if that has not failed, of the others. -/
theorem runSteps_cons (step : Step) (rest : Pipeline) (index : Nat) (ctx : Context)
    (running last : Json) (state : σ) :
    host.runSteps info nested (step :: rest) index ctx running last state =
      let ran := host.visitRun info nested ⟨step, index, ctx, running, state⟩
      match ran.answer with
      | none => ⟨ran.events, ran.state, none⟩
      | some (.error error) => ⟨ran.events, ran.state, some (.error error)⟩
      | some (.ok value) =>
        let others := host.runSteps info nested rest (index + 1) (contextAfter step ctx value)
          (runningAfter step running value) (value.getD last) ran.state
        ⟨ran.events ++ others.events, others.state, others.answer⟩ := by
  simp only [runSteps, visitRun, Exec.bind_eq, Exec.pure_eq, Exec.bind]
  rcases host.runStep info nested step index ctx running state
    with ⟨events, left, _ | error | _ | value⟩
  · rfl
  · simp [Exec.done]
  · rfl
  · cases h : step.outputKey <;> simp [contextAfter, runningAfter, h]

/-- The steps that a run reaches are a first part of its pipeline. -/
theorem visits_steps_prefix (steps : Pipeline) (index : Nat) (ctx : Context) (running : Json)
    (state : σ) :
    (host.visits info nested steps index ctx running state).map (·.step) <+: steps := by
  induction steps generalizing index ctx running state with
  | nil => simp [visits]
  | cons step rest ih =>
    simp only [visits, List.map_cons, List.cons_prefix_cons, true_and]
    split
    · exact ih ..
    · simp

/-- The steps are counted as they are reached. -/
theorem visits_index (steps : Pipeline) (index : Nat) (ctx : Context) (running : Json)
    (state : σ) :
    (host.visits info nested steps index ctx running state).map (·.index) =
      List.range' index (host.visits info nested steps index ctx running state).length := by
  induction steps generalizing index ctx running state with
  | nil => simp [visits]
  | cons step rest ih =>
    simp only [visits, List.map_cons, List.length_cons, List.range'_succ, List.cons.injEq, true_and]
    split
    · exact ih ..
    · simp

theorem getElem?_of_getElem?_visits (steps : Pipeline) (index : Nat) (ctx : Context)
    (running : Json) (state : σ) {i : Nat} {visit : Visit σ}
    (h : (host.visits info nested steps index ctx running state)[i]? = some visit) :
    steps[i]? = some visit.step := by
  obtain ⟨rest, hrest⟩ := host.visits_steps_prefix info nested steps index ctx running state
  have hm : ((host.visits info nested steps index ctx running state).map (·.step))[i]? =
      some visit.step := by simp [h]
  obtain ⟨hi, -⟩ := List.getElem?_eq_some_iff.1 hm
  rw [← hrest, List.getElem?_append_left hi, hm]

theorem index_of_getElem?_visits (steps : Pipeline) (index : Nat) (ctx : Context)
    (running : Json) (state : σ) {i : Nat} {visit : Visit σ}
    (h : (host.visits info nested steps index ctx running state)[i]? = some visit) :
    visit.index = index + i := by
  have hi := congrArg (·[i]?) (host.visits_index info nested steps index ctx running state)
  obtain ⟨hlt, rfl⟩ := List.getElem?_eq_some_iff.1 h
  simpa [hlt] using hi

/-- The context of a step is that of the scope with the outputs of the steps before it bound, in
order. -/
theorem visits_context (steps : Pipeline) (index : Nat) (ctx : Context) (running : Json)
    (state : σ) {earlier later : List (Visit σ)} {visit : Visit σ}
    (h : host.visits info nested steps index ctx running state = earlier ++ visit :: later) :
    visit.context = earlier.foldl
      (fun ctx before => contextAfter before.step ctx (host.value? info nested before)) ctx := by
  induction steps generalizing index ctx running state earlier with
  | nil => simp [visits] at h
  | cons step rest ih =>
    simp only [visits] at h
    cases earlier with
    | nil =>
      obtain ⟨rfl, -⟩ := List.cons.inj h
      rfl
    | cons first earlier =>
      obtain ⟨rfl, hrest⟩ := List.cons.inj h
      split at hrest
      · rename_i value hv
        rw [ih _ _ _ _ hrest, List.foldl_cons]
        simp [value?, hv]
      · simp at hrest

/-- What a run of steps reports is what its steps report. -/
theorem reports_runSteps (steps : Pipeline) (index : Nat) (ctx : Context) (running last : Json)
    (state : σ) :
    Event.reports (host.runSteps info nested steps index ctx running last state).events =
      (host.visits info nested steps index ctx running state).flatMap fun visit =>
        Event.reports (host.visitRun info nested visit).events := by
  induction steps generalizing index ctx running last state with
  | nil => rfl
  | cons step rest ih =>
    rw [runSteps_cons]
    simp only [visits, List.flatMap_cons]
    rcases (host.visitRun info nested ⟨step, index, ctx, running, state⟩).answer
      with _ | error | value
    · simp
    · simp
    · simp [ih]

/-- A run of steps with an answer has reached all its steps with an answer. If it succeeds these
are all the steps there are, none of them has failed, and the answer is the last value left. -/
theorem runSteps_ok (steps : Pipeline) (index : Nat) (ctx : Context) (running last : Json)
    (state : σ) {value : Json}
    (h : (host.runSteps info nested steps index ctx running last state).answer = some (.ok value)) :
    (host.visits info nested steps index ctx running state).map (·.step) = steps ∧
      (∀ visit ∈ host.visits info nested steps index ctx running state,
        ∃ left, (host.visitRun info nested visit).answer = some (.ok left)) ∧
      value = (((host.visits info nested steps index ctx running state).filterMap
        (host.value? info nested)).getLast?).getD last := by
  induction steps generalizing index ctx running last state with
  | nil =>
    obtain rfl : last = value := by simpa [runSteps, Exec.pure_eq, Exec.done] using h
    simp [visits]
  | cons step rest ih =>
    rw [runSteps_cons] at h
    simp only [visits]
    rcases ha : (host.visitRun info nested ⟨step, index, ctx, running, state⟩).answer
      with _ | error | left
    · simp [ha] at h
    · simp [ha] at h
    · simp only [ha] at h
      obtain ⟨hs, hok, hv⟩ := ih _ _ _ _ _ h
      refine ⟨by simpa using hs, ?_, ?_⟩
      · intro visit hm
        rcases List.mem_cons.1 hm with rfl | hm
        · exact ⟨left, ha⟩
        · exact hok visit hm
      · rw [hv]
        cases left <;> simp [value?, ha, List.getLast?_cons]

/-- If a run of steps fails, the last step it reached has failed with the same failure, and no
other has failed. -/
theorem runSteps_error (steps : Pipeline) (index : Nat) (ctx : Context) (running last : Json)
    (state : σ) {error : Error}
    (h : (host.runSteps info nested steps index ctx running last state).answer =
      some (.error error)) :
    ∃ earlier visit,
      host.visits info nested steps index ctx running state = earlier ++ [visit] ∧
        (∀ before ∈ earlier, ∃ left, (host.visitRun info nested before).answer = some (.ok left)) ∧
        (host.visitRun info nested visit).answer = some (.error error) := by
  induction steps generalizing index ctx running last state with
  | nil => simp [runSteps, Exec.pure_eq, Exec.done] at h
  | cons step rest ih =>
    rw [runSteps_cons] at h
    simp only [visits]
    rcases ha : (host.visitRun info nested ⟨step, index, ctx, running, state⟩).answer
      with _ | failure | left
    · simp [ha] at h
    · obtain rfl : failure = error := by simpa [ha] using h
      exact ⟨[], ⟨step, index, ctx, running, state⟩, by simp, by simp, ha⟩
    · simp only [ha] at h
      obtain ⟨earlier, visit, hv, hok, he⟩ := ih _ _ _ _ _ h
      refine ⟨⟨step, index, ctx, running, state⟩ :: earlier, visit, by simp [hv], ?_, he⟩
      intro before hm
      rcases List.mem_cons.1 hm with rfl | hm
      · exact ⟨left, ha⟩
      · exact hok before hm

/-- If the last step that a run of steps reaches has failed, the run fails as it did. -/
theorem runSteps_of_last_error (steps : Pipeline) (index : Nat) (ctx : Context)
    (running last : Json) (state : σ) {visit : Visit σ} {error : Error}
    (h : (host.visits info nested steps index ctx running state).getLast? = some visit)
    (he : (host.visitRun info nested visit).answer = some (.error error)) :
    (host.runSteps info nested steps index ctx running last state).answer =
      some (.error error) := by
  induction steps generalizing index ctx running last state with
  | nil => simp [visits] at h
  | cons step rest ih =>
    rw [runSteps_cons]
    simp only [visits] at h
    rcases ha : (host.visitRun info nested ⟨step, index, ctx, running, state⟩).answer
      with _ | failure | left
    · obtain rfl : _ = visit := by simpa [ha] using h
      rw [ha] at he
      cases he
    · obtain rfl : _ = visit := by simpa [ha] using h
      rw [ha] at he
      cases he
      simp [ha]
    · simp only [ha] at h ⊢
      refine ih _ _ _ _ _ ?_
      rw [List.getLast?_cons] at h
      cases hl : (host.visits info nested rest (index + 1) (contextAfter step ctx left)
        (runningAfter step running left)
        (host.visitRun info nested ⟨step, index, ctx, running, state⟩).state).getLast? with
      | none =>
        obtain rfl : _ = visit := by simpa [hl] using h
        rw [ha] at he
        cases he
      | some other => simpa [hl] using h

/-- A step that has failed is the last that is reached. -/
theorem getLast?_of_mem_visits (steps : Pipeline) (index : Nat) (ctx : Context) (running : Json)
    (state : σ) {visit : Visit σ} {error : Error}
    (hm : visit ∈ host.visits info nested steps index ctx running state)
    (he : (host.visitRun info nested visit).answer = some (.error error)) :
    (host.visits info nested steps index ctx running state).getLast? = some visit := by
  induction steps generalizing index ctx running state with
  | nil => cases hm
  | cons step rest ih =>
    simp only [visits] at hm ⊢
    rcases List.mem_cons.1 hm with rfl | hm
    · simp [he]
    · split at hm
      · rw [List.getLast?_cons, ih _ _ _ _ hm]
        rfl
      · cases hm

/-! The same for the scope of a call, which runs below one of greater depth. -/

variable {depth : Nat} (call : Call σ)

theorem scope_getElem? {i : Nat} {visit : Visit σ}
    (h : (host.scope info nested call)[i]? = some visit) :
    call.sub.steps[i]? = some visit.step ∧ visit.index = i := by
  refine ⟨host.getElem?_of_getElem?_visits info nested _ _ _ _ _ h, ?_⟩
  simpa using host.index_of_getElem?_visits info nested _ _ _ _ _ h

theorem scope_context {earlier later : List (Visit σ)} {visit : Visit σ}
    (h : host.scope info nested call = earlier ++ visit :: later) :
    visit.context = earlier.foldl
      (fun ctx before => contextAfter before.step ctx (host.value? info nested before))
      call.context :=
  host.visits_context info nested _ _ _ _ _ h

theorem scope_getLast? {visit : Visit σ} {error : Error}
    (hm : visit ∈ host.scope info nested call)
    (he : (host.visitRun info nested visit).answer = some (.error error)) :
    (host.scope info nested call).getLast? = some visit :=
  host.getLast?_of_mem_visits info nested _ _ _ _ _ hm he

theorem reports_run :
    Event.reports (call.run (host.runPipeline info (depth + 1))).events =
      (host.scope info (host.runPipeline info depth) call).flatMap fun visit =>
        Event.reports (host.visitRun info (host.runPipeline info depth) visit).events :=
  host.reports_runSteps info (host.runPipeline info depth) _ _ _ _ _ _

theorem scope_of_ok {value : Json}
    (h : (call.run (host.runPipeline info (depth + 1))).answer = some (.ok value)) :
    (host.scope info (host.runPipeline info depth) call).map (·.step) = call.sub.steps ∧
      (∀ visit ∈ host.scope info (host.runPipeline info depth) call,
        ∃ left, (host.visitRun info (host.runPipeline info depth) visit).answer =
          some (.ok left)) ∧
      value = (((host.scope info (host.runPipeline info depth) call).filterMap
        (host.value? info (host.runPipeline info depth))).getLast?).getD .null :=
  host.runSteps_ok info (host.runPipeline info depth) _ _ _ _ _ _ h

theorem scope_of_error {error : Error}
    (h : (call.run (host.runPipeline info (depth + 1))).answer = some (.error error)) :
    ∃ earlier visit, host.scope info (host.runPipeline info depth) call = earlier ++ [visit] ∧
      (∀ before ∈ earlier, ∃ left,
        (host.visitRun info (host.runPipeline info depth) before).answer = some (.ok left)) ∧
      (host.visitRun info (host.runPipeline info depth) visit).answer = some (.error error) :=
  host.runSteps_error info (host.runPipeline info depth) _ _ _ _ _ _ h

theorem run_of_last_error {visit : Visit σ} {error : Error}
    (h : (host.scope info (host.runPipeline info depth) call).getLast? = some visit)
    (he : (host.visitRun info (host.runPipeline info depth) visit).answer = some (.error error)) :
    (call.run (host.runPipeline info (depth + 1))).answer = some (.error error) :=
  host.runSteps_of_last_error info (host.runPipeline info depth) _ _ _ _ _ _ h he

/-- Every step that a run with an answer has reached had an answer itself. -/
theorem answered_of_mem_scope {answer : Except Error Json}
    (h : (call.run (host.runPipeline info (depth + 1))).answer = some answer) (visit : Visit σ)
    (hm : visit ∈ host.scope info (host.runPipeline info depth) call) :
    ∃ answer, (host.visitRun info (host.runPipeline info depth) visit).answer = some answer := by
  cases answer with
  | ok value =>
    obtain ⟨left, hl⟩ := (host.scope_of_ok info call h).2.1 visit hm
    exact ⟨.ok left, hl⟩
  | error error =>
    obtain ⟨earlier, last, hv, hok, he⟩ := host.scope_of_error info call h
    rw [hv] at hm
    rcases List.mem_append.1 hm with hm | hm
    · obtain ⟨left, hl⟩ := hok visit hm
      exact ⟨.ok left, hl⟩
    · obtain rfl := List.mem_singleton.1 hm
      exact ⟨.error error, he⟩

end Host

/-! A run with a failure that is contained and one that is not, for trying statements on. -/

namespace Sample

/-- Whether a run has failed. -/
def fails (ran : Ran Unit (Except Error Json)) : Bool :=
  match ran.answer with
  | some (.error _) => true
  | _ => false

theorem exists_error_of_fails {ran : Ran Unit (Except Error Json)} (h : fails ran = true) :
    ∃ error, ran.answer = some (.error error) := by
  unfold fails at h
  split at h
  · rename_i error ha
    exact ⟨error, ha⟩
  · cases h

def throwing (message : String) : Step :=
  ((Step.new (Brick.throw : Brick Unit).id).withArg "message" (.str message)).alerting

def steps : Pipeline :=
  [(Step.new Brick.Containment.id).withArg "try" (.ofSteps [throwing "inner"]), throwing "outer"]

def host : Host Unit := .ofRegistry .standard

def info : RunInfo := ⟨.v3, .document, some "deployment", .nil, .empty⟩

def ran : Ran Unit (Except Error Json) := host.runPipeline info 2 steps .empty ()

theorem ran_answer : ∃ error, ran.answer = some (.error error) :=
  exists_error_of_fails (by decide +kernel)

/-- A pipeline that answers with what is bound to a key. -/
def telling (key : String) : Pipeline :=
  [(Step.new (Brick.identity : Brick Unit).id).withArg "seen" (.var (some key))]

/-- What a run of such a pipeline has told. -/
def seen? (ran : Ran Unit (Except Error Json)) : Option String :=
  match ran.answer with
  | some (.ok value) => (value.get? "seen").bind Json.asString?
  | _ => none

theorem exists_value_of_seen? {ran : Ran Unit (Except Error Json)} {text : String}
    (h : seen? ran = some text) : ∃ value, ran.answer = some (.ok value) := by
  unfold seen? at h
  split at h
  · rename_i value ha
    exact ⟨value, ha⟩
  · cases h

end Sample
end BrickPipeline
