import BrickPipeline.Proofs.Lockstep
import BrickPipeline.Proofs.Records

/-!
Skipped steps. A step that is skipped leaves a record and nothing else: the steps behind it run as
they do without it, but that they are counted one further.
-/
namespace BrickPipeline

variable {σ : Type}

namespace Event

def isAlert : Event → Bool
  | .alert _ => true
  | _ => false

theorem alerts_filter_isAlert (events : List Event) :
    alerts (events.filter isAlert) = alerts events := by
  induction events with
  | nil => rfl
  | cons event rest ih =>
    cases event with
    | alert sent => exact congrArg (sent :: ·) ih
    | log _ => exact ih
    | trace _ => exact ih
    | wait _ => exact ih

end Event

namespace Host

variable (host : Host σ) (info : RunInfo) (nested : Runner σ)

/-! How steps are counted shows in the log and in the trace records only. -/

section Counting

variable {seen : Event → Bool} (hlog : ∀ line, seen (.log line) = false)
  (htrace : ∀ made, seen (.trace made) = false)

include hlog

theorem sendAlert_counted (span other : Option Log.Span) (step : Step) (alert : Alert) :
    Exec.Alike seen Eq (host.sendAlert span step alert) (host.sendAlert other step alert) := by
  have hentries (entries : List Log.Entry) :
      Exec.Alike seen Eq (Exec.emitAll (entries.map fun entry => .log ⟨entry, span⟩) : Exec σ Unit)
        (Exec.emitAll (entries.map fun entry => .log ⟨entry, other⟩)) := by
    intro state
    have hunseen (span : Option Log.Span) :
        (entries.map fun entry => Event.log ⟨entry, span⟩).filter seen = [] := by
      simp [List.filter_eq_nil_iff, hlog]
    refine ⟨?_, rfl, .some rfl⟩
    show (entries.map fun entry => Event.log ⟨entry, span⟩).filter seen = _
    rw [hunseen]
    exact (hunseen other).symm
  unfold sendAlert
  apply Exec.alike_bind_same
  intro _
  apply (hentries _).bind
  intro _ _ _
  apply Exec.alike_bind_same
  intro current
  cases host.alerter.failure current alert with
  | none => exact Exec.alike_refl _
  | some error => exact Exec.alike_log hlog span other _ _

include htrace

theorem fail_counted (step : Step) (index count : Nat) (ctx : Context) (args : Json)
    (error : Error) :
    Exec.Alike seen Eq (host.fail info step index ctx args error)
      (host.fail info step count ctx args error) := by
  unfold fail
  apply (Exec.alike_log hlog _ _ _ _).bind
  intro _ _ _
  have hrecorded (failure : Error) :
      Exec.Alike seen Eq
        ((Exec.emit (.trace (record info step index args (.error failure.toJson)))).bind fun _ =>
          (Exec.done (.error failure) : Exec σ (Except Error (Option Json))))
        ((Exec.emit (.trace (record info step count args (.error failure.toJson)))).bind fun _ =>
          Exec.done (.error failure)) := by
    apply (Exec.alike_trace htrace _ _).bind
    intro _ _ _
    exact Exec.alike_refl _
  cases alertFor? info step (wrap step ctx error) with
  | none => exact hrecorded _
  | some alert =>
    apply (host.sendAlert_counted hlog _ _ step alert).bind
    intro _ _ _
    exact hrecorded _

theorem runStep_counted (step : Step) (index count : Nat) (ctx : Context) (running : Json) :
    Exec.Alike seen Eq (host.runStep info nested step index ctx running)
      (host.runStep info nested step count ctx running) := by
  unfold runStep
  cases host.prepare info.apiVersion step ctx running with
  | failed args error => exact host.fail_counted info hlog htrace step index count ctx args error
  | skipped =>
    apply (Exec.alike_log hlog _ _ _ _).bind
    intro _ _ _
    apply (Exec.alike_trace htrace _ _).bind
    intro _ _ _
    exact Exec.alike_refl _
  | ready brick args =>
    have hsame := Routine.SameRequests.refl (brick.run args (host.access info step brick ctx))
    have hbrick :=
      hsame.exec nested ctx hlog (some (.brick step.id index)) (some (.brick step.id count))
    apply (Exec.alike_log hlog _ _ _ _).bind
    intro _ _ _
    apply hbrick.bind
    rintro answer _ rfl
    cases answer with
    | error error => exact host.fail_counted info hlog htrace step index count ctx args error
    | ok value =>
      apply (Exec.alike_log hlog _ _ _ _).bind
      intro _ _ _
      apply (Exec.alike_trace htrace _ _).bind
      intro _ _ _
      exact Exec.alike_refl _

theorem runSteps_counted (steps : Pipeline) (index count : Nat) (ctx : Context)
    (running last : Json) :
    Exec.Alike seen Eq (host.runSteps info nested steps index ctx running last)
      (host.runSteps info nested steps count ctx running last) := by
  induction steps generalizing index count ctx running last with
  | nil => exact Exec.alike_refl _
  | cons step rest ih =>
    apply (host.runStep_counted info nested hlog htrace step index count ctx running).bind
    rintro answer _ rfl
    rcases answer with error | _ | value
    · exact Exec.alike_refl _
    · exact ih (index + 1) (count + 1) ctx running last
    · dsimp only
      cases step.outputKey with
      | none => exact ih (index + 1) (count + 1) ctx value value
      | some outputKey =>
        exact ih (index + 1) (count + 1) (ctx.bindOutput outputKey value) running value

end Counting
end Host

/-- The same step with one more before it. -/
def Visit.later (visit : Visit σ) : Visit σ := { visit with index := visit.index + 1 }

/-- The same record with one more step before it. -/
def Trace.Record.later (made : Trace.Record) : Trace.Record := { made with index := made.index + 1 }

namespace Host

variable (host : Host σ) (info : RunInfo) (nested : Runner σ)

theorem visitRun_later (visit : Visit σ) :
    (host.visitRun info nested visit.later).Alike Event.isAlert Eq
      (host.visitRun info nested visit) :=
  host.runStep_counted info nested (fun _ => rfl) (fun _ => rfl) visit.step _ _ visit.context
    visit.running visit.state

theorem ownRecord_later (visit : Visit σ) :
    host.ownRecord info nested visit.later = (host.ownRecord info nested visit).later := by
  unfold ownRecord
  rw [(host.visitRun_later info nested visit).answer_eq]
  rfl

/-- What the brick of a step runs does not depend on how steps are counted. -/
theorem recordsBelow_later (visit : Visit σ) :
    host.recordsBelow info nested visit.later = host.recordsBelow info nested visit := rfl

theorem visits_later (steps : Pipeline) (index : Nat) (ctx : Context) (running : Json)
    (state : σ) :
    host.visits info nested steps (index + 1) ctx running state =
      (host.visits info nested steps index ctx running state).map Visit.later := by
  induction steps generalizing index ctx running state with
  | nil => rfl
  | cons step rest ih =>
    have hrun := host.visitRun_later info nested ⟨step, index, ctx, running, state⟩
    have hanswer : (host.visitRun info nested ⟨step, index + 1, ctx, running, state⟩).answer =
        (host.visitRun info nested ⟨step, index, ctx, running, state⟩).answer := hrun.answer_eq
    have hstate : (host.visitRun info nested ⟨step, index + 1, ctx, running, state⟩).state =
        (host.visitRun info nested ⟨step, index, ctx, running, state⟩).state := hrun.state
    unfold visits
    dsimp only
    rw [hanswer, hstate, List.map_cons]
    rcases (host.visitRun info nested ⟨step, index, ctx, running, state⟩).answer
      with _ | error | left
    · rfl
    · rfl
    · exact congrArg _ (ih (index + 1) _ _ _)

/-- Steps with one more before them answer, leave the state and send alerts as they do otherwise. -/
theorem runSteps_later (steps : Pipeline) (index : Nat) (ctx : Context) (running last : Json)
    (state : σ) :
    let moved := host.runSteps info nested steps (index + 1) ctx running last state
    let others := host.runSteps info nested steps index ctx running last state
    moved.answer = others.answer ∧ moved.state = others.state ∧
      Event.alerts moved.events = Event.alerts others.events := by
  intro moved others
  have hmoved : moved.Alike Event.isAlert Eq others :=
    host.runSteps_counted info nested (fun _ => rfl) (fun _ => rfl) steps _ _ ctx running last state
  refine ⟨hmoved.answer_eq, hmoved.state, ?_⟩
  rw [← Event.alerts_filter_isAlert, hmoved.events, Event.alerts_filter_isAlert]

/-- The records of steps with one more before them. -/
theorem records_runSteps_later {steps : Pipeline} {index : Nat} {ctx : Context} {running : Json}
    {state : σ}
    (answered : ∀ visit ∈ host.visits info nested steps index ctx running state,
      ∃ answer, (host.visitRun info nested visit).answer = some answer) (last : Json) :
    Event.records (host.runSteps info nested steps (index + 1) ctx running last state).events =
      (host.visits info nested steps index ctx running state).flatMap fun visit =>
        host.recordsBelow info nested visit ++ [(host.ownRecord info nested visit).later] := by
  have hlater := host.visits_later info nested steps index ctx running state
  have hanswered : ∀ visit ∈ host.visits info nested steps (index + 1) ctx running state,
      ∃ answer, (host.visitRun info nested visit).answer = some answer := by
    rw [hlater]
    intro visit hm
    obtain ⟨earlier, hearlier, rfl⟩ := List.mem_map.1 hm
    rw [(host.visitRun_later info nested earlier).answer_eq]
    exact answered earlier hearlier
  rw [host.records_runSteps info nested hanswered, hlater, List.flatMap_map]
  apply List.flatMap_congr
  intro visit _
  rw [recordsBelow_later, ownRecord_later]

/-- The context behind steps that a run has reached. -/
def contextBehind (ctx : Context) (reached : List (Visit σ)) : Context :=
  reached.foldl (fun ctx before => contextAfter before.step ctx (host.value? info nested before))
    ctx

/-- The value that is carried on behind steps that a run has reached. -/
def runningBehind (running : Json) (reached : List (Visit σ)) : Json :=
  reached.foldl
    (fun running before => runningAfter before.step running (host.value? info nested before))
    running

/-- Steps behind others that have not failed run where these have left off. -/
theorem runSteps_append {steps : Pipeline} {index : Nat} {ctx : Context} {running last : Json}
    {state : σ} {value : Json}
    (h : (host.runSteps info nested steps index ctx running last state).answer = some (.ok value))
    (rest : Pipeline) :
    let ran := host.runSteps info nested steps index ctx running last state
    let reached := host.visits info nested steps index ctx running state
    let behind := host.contextBehind info nested ctx reached
    let carried := host.runningBehind info nested running reached
    let others := host.runSteps info nested rest (index + steps.length) behind carried value
      ran.state
    host.runSteps info nested (steps ++ rest) index ctx running last state =
        ⟨ran.events ++ others.events, others.state, others.answer⟩ ∧
      host.visits info nested (steps ++ rest) index ctx running state =
        reached ++ host.visits info nested rest (index + steps.length) behind carried
          ran.state := by
  induction steps generalizing index ctx running last state with
  | nil =>
    obtain rfl : last = value := by simpa [runSteps, Exec.pure_eq, Exec.done] using h
    exact ⟨rfl, rfl⟩
  | cons step steps ih =>
    rw [runSteps_cons] at h
    rcases ha : (host.visitRun info nested ⟨step, index, ctx, running, state⟩).answer
      with _ | error | left
    · simp [ha] at h
    · simp [ha] at h
    · simp only [ha] at h
      obtain ⟨hrun, hvisits⟩ := ih h
      have hvalue : host.value? info nested ⟨step, index, ctx, running, state⟩ = left := by
        simp [value?, ha]
      have hlength : index + (step :: steps).length = index + 1 + steps.length := by
        rw [List.length_cons]
        omega
      rw [List.cons_append, hlength, runSteps_cons, runSteps_cons]
      simp only [visits, ha, contextBehind, runningBehind, List.foldl_cons, hvalue]
      refine ⟨?_, ?_⟩
      · rw [hrun, List.append_assoc]
        rfl
      · rw [hvisits]
        rfl

/-- Steps behind a pipeline that has not failed. -/
theorem runPipeline_append {depth : Nat} {steps : Pipeline} {ctx : Context} {state : σ}
    {value : Json}
    (h : (host.runPipeline info (depth + 1) steps ctx state).answer = some (.ok value))
    (rest : Pipeline) :
    let nested := host.runPipeline info depth
    let ran := host.runPipeline info (depth + 1) steps ctx state
    let reached := host.scope info nested (.root steps ctx state)
    let behind := host.contextBehind info nested ctx reached
    let carried := host.runningBehind info nested ((ctx.get? inputKey).getD .null) reached
    let others := host.runSteps info nested rest steps.length behind carried value ran.state
    host.runPipeline info (depth + 1) (steps ++ rest) ctx state =
        ⟨ran.events ++ others.events, others.state, others.answer⟩ ∧
      (host.scope info nested (.root (steps ++ rest) ctx state)).drop steps.length =
        host.visits info nested rest steps.length behind carried ran.state := by
  intro nested ran reached behind carried others
  have happend := host.runSteps_append info nested h rest
  rw [Nat.zero_add] at happend
  obtain ⟨hrun, hvisits⟩ := happend
  have hreached : reached.length = steps.length := by
    have hsteps := (host.scope_of_ok info (.root steps ctx state) h).1
    rw [← List.length_map, hsteps]
    rfl
  have hscope : host.scope info nested (.root (steps ++ rest) ctx state) = reached ++
      host.visits info nested rest steps.length behind carried ran.state := hvisits
  refine ⟨hrun, ?_⟩
  rw [hscope]
  exact List.drop_left' hreached

/-- A step is skipped if its output key is not reserved and its condition renders to something
falsy. Neither its brick nor its arguments are looked at. -/
theorem prepare_of_falsy {version : ApiVersion} {step : Step} {ctx : Context} {running : Json}
    {condition : Expr} {rendered : Json}
    (unreserved : ∀ key, step.outputKey = some key → isReserved key = false)
    (conditional : step.condition = some condition)
    (renders : Render.value host.renderers (version.renderMode step.templateEngine)
      (renderContext (version.renderMode step.templateEngine) ctx running) condition =
        .ok rendered)
    (falsy : rendered.isTruthy = false) :
    host.prepare version step ctx running = .skipped := by
  have hkey : step.outputKey.filter isReserved = none := by
    rw [Option.filter_eq_none_iff]
    intro key hkey
    simp [unreserved key hkey]
  have hholds : host.holds (version.renderMode step.templateEngine)
      (renderContext (version.renderMode step.templateEngine) ctx running) step = .ok false := by
    unfold holds
    rw [conditional]
    dsimp only
    rw [renders]
    exact congrArg Except.ok falsy
  unfold prepare
  rw [hkey]
  dsimp only
  rw [hholds]

section Skipped

variable {host info} {visit : Visit σ} (h : host.prepared info visit = .skipped)

include h

theorem visitRun_of_skipped :
    let ran := host.visitRun info nested visit
    ran.answer = some (.ok none) ∧ ran.state = visit.state ∧
      Event.records ran.events = [record info visit.step visit.index .null .skipped] ∧
      Event.alerts ran.events = [] := by
  unfold visitRun runStep
  rw [show host.prepare info.apiVersion visit.step visit.context visit.running = _ from h]
  exact ⟨rfl, rfl, rfl, rfl⟩

/-- Behind a step that is skipped everything goes on as it was. -/
theorem runSteps_of_skipped (rest : Pipeline) (last : Json) :
    let ran := host.visitRun info nested visit
    let others := host.runSteps info nested rest (visit.index + 1) visit.context visit.running last
      visit.state
    host.runSteps info nested (visit.step :: rest) visit.index visit.context visit.running last
        visit.state =
      ⟨ran.events ++ others.events, others.state, others.answer⟩ := by
  obtain ⟨hanswer, hstate, -, -⟩ := visitRun_of_skipped nested h
  intro ran others
  rw [runSteps_cons]
  dsimp only
  rw [hanswer]
  dsimp only
  rw [hstate]
  rfl

end Skipped
end Host

/-- A step that is skipped changes nothing but the trace. If the steps before it do not fail and its
condition renders to something falsy behind them, the run answers, leaves the state and sends the
alerts that it does without the step. The step leaves one record behind those of the steps before
it, and the steps behind it leave the records that they leave otherwise, counted one further. -/
theorem Host.runPipeline_skipped (host : Host σ) (info : RunInfo) (depth : Nat)
    (before after : Pipeline) (ctx : Context) (state : σ) {step : Step} {value rendered : Json}
    {condition : Expr}
    (completes : (host.runPipeline info (depth + 1) before ctx state).answer = some (.ok value))
    (unreserved : ∀ key, step.outputKey = some key → isReserved key = false)
    (conditional : step.condition = some condition)
    (renders :
      let nested := host.runPipeline info depth
      let reached := host.scope info nested (.root before ctx state)
      let mode := info.apiVersion.renderMode step.templateEngine
      Render.value host.renderers mode
        (renderContext mode (host.contextBehind info nested ctx reached)
          (host.runningBehind info nested ((ctx.get? inputKey).getD .null) reached)) condition =
        .ok rendered)
    (falsy : rendered.isTruthy = false) :
    let nested := host.runPipeline info depth
    let first := host.runPipeline info (depth + 1) before ctx state
    let plain := host.runPipeline info (depth + 1) (before ++ after) ctx state
    let skipping := host.runPipeline info (depth + 1) (before ++ [step] ++ after) ctx state
    let behind := (host.scope info nested (.root (before ++ after) ctx state)).drop before.length
    skipping.answer = plain.answer ∧ skipping.state = plain.state ∧
      Event.alerts skipping.events = Event.alerts plain.events ∧
      ∀ answer, plain.answer = some answer →
        Event.records plain.events = Event.records first.events ++
            behind.flatMap (fun visit =>
              host.recordsBelow info nested visit ++ [host.ownRecord info nested visit]) ∧
          Event.records skipping.events = Event.records first.events ++
            [record info step before.length .null .skipped] ++
              behind.flatMap fun visit => host.recordsBelow info nested visit ++
                [(host.ownRecord info nested visit).later] := by
  intro nested first plain skipping behind
  let reached := host.scope info nested (.root before ctx state)
  let skipped : Visit σ := ⟨step, before.length, host.contextBehind info nested ctx reached,
    host.runningBehind info nested ((ctx.get? inputKey).getD .null) reached, first.state⟩
  let others := host.runSteps info nested after before.length skipped.context skipped.running value
    first.state
  let moved := host.runSteps info nested after (before.length + 1) skipped.context skipped.running
    value first.state
  have hprepared : host.prepared info skipped = .skipped :=
    host.prepare_of_falsy unreserved conditional renders falsy
  obtain ⟨-, -, hrecord, halert⟩ := visitRun_of_skipped nested hprepared
  obtain ⟨hplain, hbehind⟩ : plain =
        ⟨first.events ++ others.events, others.state, others.answer⟩ ∧
      behind = host.visits info nested after before.length skipped.context skipped.running
        first.state :=
    host.runPipeline_append info completes after
  have hskipping : skipping =
      ⟨first.events ++ ((host.visitRun info nested skipped).events ++ moved.events), moved.state,
        moved.answer⟩ := by
    have happend := (host.runPipeline_append info completes (step :: after)).1
    have hrest := runSteps_of_skipped nested hprepared after value
    unfold skipping
    rw [List.append_assoc]
    exact happend.trans (congrArg (fun others : Ran σ (Except Error Json) =>
      (⟨first.events ++ others.events, others.state, others.answer⟩ : Ran _ _)) hrest)
  obtain ⟨hanswer, hstate, halerts⟩ : moved.answer = others.answer ∧
      moved.state = others.state ∧ Event.alerts moved.events = Event.alerts others.events :=
    host.runSteps_later info nested after before.length skipped.context skipped.running value
      first.state
  refine ⟨?_, ?_, ?_, fun answer answered => ?_⟩
  · rw [hskipping, hplain]
    exact hanswer
  · rw [hskipping, hplain]
    exact hstate
  · rw [hskipping, hplain]
    simp only [Event.alerts_append, halert, halerts, List.nil_append]
  · have hvisits : ∀ visit ∈ behind,
        ∃ answer, (host.visitRun info nested visit).answer = some answer := by
      intro visit hm
      apply host.answered_of_mem_scope info (.root (before ++ after) ctx state) answered
      exact List.mem_of_mem_drop hm
    rw [hbehind] at hvisits ⊢
    have hothers := host.records_runSteps info nested hvisits value
    have hmoved := host.records_runSteps_later info nested hvisits value
    constructor
    · rw [hplain, Event.records_append]
      exact congrArg _ hothers
    · rw [hskipping, Event.records_append, Event.records_append, hrecord, List.append_assoc]
      exact congrArg (fun made => _ ++ (_ ++ made)) hmoved

namespace Sample

/-- A step that could not run: there is no such brick. -/
def skippable : Step :=
  ((Step.new ⟨"@brick/missing", by decide⟩).withOutputKey "told").onlyIf (.var (some "@told.more"))

/-- A step that binds what a later one tells. -/
def binding : Step :=
  (((Step.new (Brick.identity : Brick Unit).id).withArg "seen" (.str "first")).withArg "more"
    (.literal (.bool false))).withOutputKey "told"

end Sample

theorem Host.runPipeline_skipped_sample :
    let plain := Sample.host.runPipeline Sample.info 2
      ([Sample.binding] ++ Sample.telling "@told.seen") .empty ()
    let skipping := Sample.host.runPipeline Sample.info 2
      ([Sample.binding] ++ [Sample.skippable] ++ Sample.telling "@told.seen") .empty ()
    skipping.answer = plain.answer ∧ Sample.seen? plain = some "first" ∧
      (Event.records plain.events).length = 2 ∧ (Event.records skipping.events).length = 3 := by
  intro plain skipping
  obtain ⟨value, hvalue⟩ : ∃ value, (Sample.host.runPipeline Sample.info 2 [Sample.binding] .empty
      ()).answer = some (.ok value) :=
    Sample.exists_value_of_seen? (show _ = some "first" by decide +kernel)
  have unreserved : ∀ key, Sample.skippable.outputKey = some key → isReserved key = false := by
    rintro key hkey
    obtain rfl : "told" = key := Option.some.inj hkey
    decide
  have falsy : (Render.variableValue (some "@told.more")
      (Sample.host.contextBehind Sample.info (Sample.host.runPipeline Sample.info 1) .empty
        (Sample.host.scope Sample.info (Sample.host.runPipeline Sample.info 1)
          (.root [Sample.binding] .empty ())))).isTruthy = false := by
    decide +kernel
  have hskipped := Sample.host.runPipeline_skipped Sample.info 1 [Sample.binding]
    (Sample.telling "@told.seen") .empty () hvalue unreserved rfl rfl falsy
  refine ⟨hskipped.1, ?_, ?_, ?_⟩
  · decide +kernel
  · decide +kernel
  · decide +kernel

end BrickPipeline
