import BrickPipeline.Proofs.Inlining

/-!
Containment of failures. Whatever makes the attempt of a containment step fail, at whatever depth,
the step goes on in its own context: with null, or with what its handler makes of the failure as
data.
-/
namespace BrickPipeline

open Arguments

variable {σ : Type}

namespace Brick.Containment

variable {args : Json} {attempt : SubPipeline} {handler : Option SubPipeline} {key : String}

theorem arguments_of_reads {errorKey : String}
    (hattempt : subPipeline id args "try" = .ok attempt)
    (hhandler : subPipeline? id args "except" = .ok handler)
    (hkey : keyArgument id args "errorKey" "error" = .ok errorKey) :
    arguments args = .ok (attempt, handler, bindingKey errorKey) := by
  unfold arguments
  rw [hattempt, hhandler, hkey]
  rfl

variable (reads : arguments args = .ok (attempt, handler, key)) (nested : Runner σ)
  (span : Option Log.Span) (ctx : Context) (state : σ)

include reads

theorem run_unfinished (h : (Call.run nested ⟨attempt, ctx, [], state⟩).answer = none) :
    ((run args).exec nested span ctx state).answer = none := by
  unfold run
  rw [reads]
  dsimp only
  rw [Routine.exec_call]
  simp [h]

/-- After a success nothing else runs. -/
theorem run_success {value : Json}
    (h : (Call.run nested ⟨attempt, ctx, [], state⟩).answer = some (.ok value)) :
    ((run args).exec nested span ctx state).answer = some (.ok value) ∧
      ((run args).exec nested span ctx state).state =
        (Call.run nested ⟨attempt, ctx, [], state⟩).state ∧
      (run args).calls nested ctx state = [⟨attempt, ctx, [], state⟩] := by
  unfold run
  rw [reads]
  dsimp only
  rw [Routine.exec_call]
  simp [Routine.calls, Routine.exec, Exec.done, h]

/-- After a failure the handler has its turn, on what the attempt has left. -/
theorem run_failure {error : Error}
    (h : (Call.run nested ⟨attempt, ctx, [], state⟩).answer = some (.error error)) :
    let failed := Call.run nested ⟨attempt, ctx, [], state⟩
    ((run args).exec nested span ctx state).answer =
        ((handle handler key error).exec nested span ctx failed.state).answer ∧
      ((run args).exec nested span ctx state).state =
        ((handle handler key error).exec nested span ctx failed.state).state ∧
      (run args).calls nested ctx state =
        ⟨attempt, ctx, [], state⟩ :: (handle handler key error).calls nested ctx failed.state := by
  unfold run
  rw [reads]
  dsimp only
  rw [Routine.exec_call]
  simp [Routine.calls, h]

omit reads

theorem relays_handle (sub : SubPipeline) (key : String) (error : Error) :
    (handle (some sub) key error : Routine σ _).Relays sub [(key, error.toJson)] :=
  ⟨rfl, rfl, fun _ => rfl⟩

theorem gives_handle (key : String) (error : Error) :
    (handle none key error : Routine σ _).Gives (.ok .null) := rfl

end Brick.Containment

namespace Host

variable (host : Host σ) (info : RunInfo) (nested : Runner σ) (visit : Visit σ)

/-- The steps after one that has left a value run in the context that the value leaves. -/
theorem runSteps_of_value {value : Json}
    (h : (host.visitRun info nested visit).answer = some (.ok (some value))) (rest : Pipeline)
    (last : Json) :
    let ran := host.visitRun info nested visit
    let others := host.runSteps info nested rest (visit.index + 1)
      (contextAfter visit.step visit.context (some value))
      (runningAfter visit.step visit.running (some value)) value ran.state
    host.runSteps info nested (visit.step :: rest) visit.index visit.context visit.running last
        visit.state = ⟨ran.events ++ others.events, others.state, others.answer⟩ := by
  intro ran others
  rw [runSteps_cons]
  dsimp only
  rw [h]
  rfl

section Containment

variable {host info visit} {args : Json} {attempt : SubPipeline} {handler : Option SubPipeline}
  {key : String} (prepared : host.prepared info visit = .ready Brick.tryExcept args)
  (reads : Brick.Containment.arguments args = .ok (attempt, handler, key))

include prepared

/-- What a containment step does is what its routine does. -/
theorem visitRun_containment :
    let run : Ran σ (Except Error Json) := (Brick.Containment.run args).exec nested
      (some (.brick visit.step.id visit.index)) visit.context visit.state
    (host.visitRun info nested visit).answer = run.answer.map (fun answer =>
        (answer.map some).mapError (leave info visit.step visit.context)) ∧
      (host.visitRun info nested visit).state = run.state ∧
      host.calls info nested visit =
        (Brick.Containment.run args).calls nested visit.context visit.state := by
  refine ⟨host.visitRun_of_ready info nested visit prepared,
    host.visitRun_state info nested visit prepared, ?_⟩
  unfold calls
  rw [prepared]
  rfl

include reads

theorem visitRun_unfinished
    (h : (Call.run nested ⟨attempt, visit.context, [], visit.state⟩).answer = none) :
    (host.visitRun info nested visit).answer = none := by
  obtain ⟨hanswer, -, -⟩ := visitRun_containment nested prepared
  rw [hanswer, Brick.Containment.run_unfinished reads nested _ _ _ h]
  rfl

theorem visitRun_success {value : Json} (h : (Call.run nested
      ⟨attempt, visit.context, [], visit.state⟩).answer = some (.ok value)) :
    let attempting : Call σ := ⟨attempt, visit.context, [], visit.state⟩
    (host.visitRun info nested visit).answer = some (.ok (some value)) ∧
      (host.visitRun info nested visit).state = (attempting.run nested).state ∧
      host.calls info nested visit = [attempting] := by
  obtain ⟨hanswer, hstate, hcalls⟩ := visitRun_containment nested prepared
  obtain ⟨ha, hs, hc⟩ := Brick.Containment.run_success reads nested
    (some (.brick visit.step.id visit.index)) _ _ h
  refine ⟨?_, hstate.trans hs, hcalls.trans hc⟩
  rw [hanswer, ha]
  rfl

theorem visitRun_swallowed (unhandled : handler = none) {error : Error} (h : (Call.run nested
      ⟨attempt, visit.context, [], visit.state⟩).answer = some (.error error)) :
    let attempting : Call σ := ⟨attempt, visit.context, [], visit.state⟩
    (host.visitRun info nested visit).answer = some (.ok (some .null)) ∧
      (host.visitRun info nested visit).state = (attempting.run nested).state ∧
      host.calls info nested visit = [attempting] := by
  intro attempting
  subst unhandled
  obtain ⟨hanswer, hstate, hcalls⟩ := visitRun_containment nested prepared
  obtain ⟨ha, hs, hc⟩ := Brick.Containment.run_failure reads nested
    (some (.brick visit.step.id visit.index)) _ _ h
  obtain ⟨hga, hgs, hgc⟩ := (Brick.Containment.gives_handle (σ := σ) key error).exec nested
    (some (.brick visit.step.id visit.index)) visit.context (attempting.run nested).state
  refine ⟨?_, hstate.trans (hs.trans hgs), hcalls.trans ?_⟩
  · rw [hanswer, ha, hga]
    rfl
  · rw [hc, hgc]

theorem visitRun_handled {sub : SubPipeline} (handled : handler = some sub) {error : Error}
    (h : (Call.run nested ⟨attempt, visit.context, [], visit.state⟩).answer =
      some (.error error)) :
    let attempting : Call σ := ⟨attempt, visit.context, [], visit.state⟩
    let handling : Call σ :=
      ⟨sub, visit.context, [(key, error.toJson)], (attempting.run nested).state⟩
    (host.visitRun info nested visit).answer = (handling.run nested).answer.map (fun answer =>
        (answer.map some).mapError (leave info visit.step visit.context)) ∧
      (host.visitRun info nested visit).state = (handling.run nested).state ∧
      host.calls info nested visit = [attempting, handling] := by
  intro attempting handling
  subst handled
  obtain ⟨hanswer, hstate, hcalls⟩ := visitRun_containment nested prepared
  obtain ⟨ha, hs, hc⟩ := Brick.Containment.run_failure reads nested
    (some (.brick visit.step.id visit.index)) _ _ h
  obtain ⟨hra, hrs, hrc⟩ := (Brick.Containment.relays_handle (σ := σ) sub key error).exec nested
    (some (.brick visit.step.id visit.index)) visit.context (attempting.run nested).state
  refine ⟨?_, hstate.trans (hs.trans hrs), hcalls.trans ?_⟩
  · rw [hanswer, ha, hra]
  · rw [hc, hrc]

end Containment
end Host

/-- How a containment step goes once its arguments have been checked and read. It leaves what its
attempt leaves, and nothing else runs; a failure of the attempt becomes null, or what the handler
makes of the failure in its own base context with nothing but the failure bound. Without a handler
the step does not fail, and the steps after it see its value and nothing else of what happened. -/
theorem Host.visitRun_tryExcept (host : Host σ) (info : RunInfo) (depth : Nat) {visit : Visit σ}
    {args : Json} {attempt : SubPipeline} {handler : Option SubPipeline} {errorKey : String}
    (prepared : host.prepared info visit = .ready Brick.tryExcept args)
    (hattempt : subPipeline Brick.Containment.id args "try" = .ok attempt)
    (hhandler : subPipeline? Brick.Containment.id args "except" = .ok handler)
    (hkey : keyArgument Brick.Containment.id args "errorKey" "error" = .ok errorKey) :
    let nested := host.runPipeline info depth
    let ran := host.visitRun info nested visit
    let attempting : Call σ := ⟨attempt, visit.context, [], visit.state⟩
    let tried := attempting.run nested
    (tried.answer = none → ran.answer = none) ∧
      (∀ value, tried.answer = some (.ok value) →
        ran.answer = some (.ok (some value)) ∧ ran.state = tried.state ∧
          host.calls info nested visit = [attempting]) ∧
      (∀ error, tried.answer = some (.error error) → handler = none →
        ran.answer = some (.ok (some .null)) ∧ ran.state = tried.state ∧
          host.calls info nested visit = [attempting]) ∧
      (∀ error sub, tried.answer = some (.error error) → handler = some sub →
        let handling : Call σ :=
          ⟨sub, visit.context, [(bindingKey errorKey, error.toJson)], tried.state⟩
        let handled := handling.run nested
        handling.context =
            (sub.environment.getD visit.context).bind (bindingKey errorKey) error.toJson ∧
          ran.answer = handled.answer.map (fun answer =>
            (answer.map some).mapError fun failure =>
              if (alertFor? info visit.step failure).isSome then markAlerted failure
              else failure) ∧
          ran.state = handled.state ∧ host.calls info nested visit = [attempting, handling]) ∧
      (handler = none → ∀ error, ran.answer ≠ some (.error error)) ∧
      ∀ value, ran.answer = some (.ok (some value)) → ∀ rest last,
        let others := host.runSteps info nested rest (visit.index + 1)
          (contextAfter visit.step visit.context (some value))
          (runningAfter visit.step visit.running (some value)) value ran.state
        host.runSteps info nested (visit.step :: rest) visit.index visit.context visit.running last
          visit.state = ⟨ran.events ++ others.events, others.state, others.answer⟩ := by
  intro nested ran attempting tried
  have reads := Brick.Containment.arguments_of_reads hattempt hhandler hkey
  have unfinished : tried.answer = none → ran.answer = none :=
    visitRun_unfinished nested prepared reads
  have succeeds : ∀ value, tried.answer = some (.ok value) →
      ran.answer = some (.ok (some value)) ∧ ran.state = tried.state ∧
        host.calls info nested visit = [attempting] :=
    fun value h => visitRun_success nested prepared reads h
  have swallows : ∀ error, tried.answer = some (.error error) → handler = none →
      ran.answer = some (.ok (some .null)) ∧ ran.state = tried.state ∧
        host.calls info nested visit = [attempting] :=
    fun error h unhandled => visitRun_swallowed nested prepared reads unhandled h
  refine ⟨unfinished, succeeds, swallows, ?_, ?_, ?_⟩
  · intro error sub h handles handling handled
    obtain ⟨hanswer, hstate, hcalls⟩ := visitRun_handled nested prepared reads handles h
    refine ⟨rfl, hanswer.trans ?_, hstate, hcalls⟩
    cases ha : handled.answer with
    | none => rfl
    | some answer =>
      cases answer with
      | ok value => rfl
      | error failure =>
        have hleave := leave_of_isContext info visit.step visit.context (isContext_of_error _ ha)
        exact congrArg (some ∘ Except.error) hleave
  · intro unhandled error h
    cases ht : tried.answer with
    | none => cases (unfinished ht).symm.trans h
    | some answer =>
      cases answer with
      | ok value => cases (succeeds value ht).1.symm.trans h
      | error failure => cases (swallows failure ht unhandled).1.symm.trans h
  · exact fun value h rest last => host.runSteps_of_value info nested visit h rest last

namespace Sample

/-- A handler that answers with the message of the failure. -/
def handler : Pipeline :=
  [(Step.new (Brick.identity : Brick Unit).id).withArg "seen" (.var (some "@problem.message"))]

def handlingStep : Step :=
  (((Step.new Brick.Containment.id).withArg "try" (.ofSteps [throwing "inner"])).withArg "except"
    (.ofSteps handler)).withArg "errorKey" (.str "problem")

def handlingArgs : Json := .object (Expr.entriesToJson handlingStep.config)

def handlingVisit : Visit Unit := ⟨handlingStep, 0, .empty, .null, ()⟩

end Sample

theorem Host.visitRun_tryExcept_sample :
    let nested := Sample.host.runPipeline Sample.info 1
    let attempting : Call Unit := ⟨⟨[Sample.throwing "inner"], none⟩, .empty, [], ()⟩
    ∃ error handling,
      (attempting.run nested).answer = some (.error error) ∧
      Call.context handling = Context.empty.bind "@problem" error.toJson ∧
      Sample.host.calls Sample.info nested Sample.handlingVisit = [attempting, handling] ∧
      ((Sample.host.value? Sample.info nested Sample.handlingVisit).bind fun value =>
        (value.get? "seen").bind Json.asString?) = some "inner" := by
  intro nested attempting
  have prepared : Sample.host.prepared Sample.info Sample.handlingVisit =
      .ready Brick.tryExcept Sample.handlingArgs :=
    Sample.host.prepare_of_valid rfl rfl rfl (fun _ => rfl) (by decide +kernel)
  have failed : ∃ error, (attempting.run nested).answer = some (.error error) :=
    Sample.exists_error_of_fails (by decide +kernel)
  obtain ⟨error, hfailed⟩ := failed
  have hattempt : subPipeline Brick.Containment.id Sample.handlingArgs "try" =
      .ok ⟨[Sample.throwing "inner"], none⟩ := rfl
  have hhandler : subPipeline? Brick.Containment.id Sample.handlingArgs "except" =
      .ok (some ⟨Sample.handler, none⟩) := rfl
  have hkey : keyArgument Brick.Containment.id Sample.handlingArgs "errorKey" "error" =
      .ok "problem" := rfl
  obtain ⟨-, -, -, handles, -, -⟩ :=
    Sample.host.visitRun_tryExcept Sample.info 1 prepared hattempt hhandler hkey
  obtain ⟨hcontext, -, -, hcalls⟩ := handles error _ hfailed rfl
  exact ⟨error, _, hfailed, hcontext, hcalls, by decide +kernel⟩

end BrickPipeline
