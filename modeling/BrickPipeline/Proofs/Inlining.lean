import BrickPipeline.Proofs.Requests

/-!
Control flow is transparent. A control-flow step that only runs one sub-pipeline, because its
condition selects that branch or because there is a single attempt, is that sub-pipeline run in
place of the step, and one record of the step.
-/
namespace BrickPipeline

open Arguments

variable {σ α : Type}

namespace Routine

/-- Whether a routine at most writes to the log before it gives an answer. -/
def Gives (answer : α) : Routine σ α → Prop
  | done given => given = answer
  | log _ next => Gives answer next
  | _ => False

/-- Whether a routine only runs a sub-pipeline, with bindings, and answers as that did. -/
def Relays (sub : SubPipeline) (bindings : List (String × Json)) :
    Routine σ (Except Error Json) → Prop
  | log _ next => Relays sub bindings next
  | call asked added next =>
    asked = sub ∧ added = bindings ∧ ∀ answer, (next answer).Gives answer
  | _ => False

variable (nested : Runner σ) (span : Option Log.Span) (ctx : Context)

theorem Gives.exec {answer : α} {routine : Routine σ α} (h : routine.Gives answer) (state : σ) :
    (routine.exec nested span ctx state).answer = some answer ∧
      (routine.exec nested span ctx state).state = state ∧
      routine.calls nested ctx state = [] := by
  induction routine with
  | done given =>
    obtain rfl : given = answer := h
    exact ⟨rfl, rfl, rfl⟩
  | log _ _ ih => exact ih h
  | wait _ _ _ => exact h.elim
  | call _ _ _ _ => exact h.elim
  | get _ _ => exact h.elim
  | set _ _ _ => exact h.elim

/-- A routine that relays a sub-pipeline answers as the sub-pipeline does. -/
theorem Relays.exec {sub : SubPipeline} {bindings : List (String × Json)}
    {routine : Routine σ (Except Error Json)} (h : routine.Relays sub bindings) (state : σ) :
    let asked : Call σ := ⟨sub, ctx, bindings, state⟩
    (routine.exec nested span ctx state).answer = (asked.run nested).answer ∧
      (routine.exec nested span ctx state).state = (asked.run nested).state ∧
      routine.calls nested ctx state = [asked] := by
  intro asked
  induction routine with
  | log _ _ ih => exact ih h
  | call _ _ next _ =>
    obtain ⟨rfl, rfl, hnext⟩ := h
    rw [exec_call]
    cases ha : (asked.run nested).answer with
    | none => simp [calls, asked, ha]
    | some answer =>
      obtain ⟨hanswer, hstate, hcalls⟩ :=
        (hnext answer).exec nested span ctx (asked.run nested).state
      simp [calls, asked, ha, hanswer, hstate, hcalls]
  | done _ => exact h.elim
  | wait _ _ _ => exact h.elim
  | get _ _ => exact h.elim
  | set _ _ _ => exact h.elim

end Routine

namespace Brick

theorem relays_branch {args : Json} {sub : SubPipeline} (condition : Bool)
    (hc : (args.get? "condition").any Json.isTruthy = condition)
    (hs : Branch.select args condition = .ok (some sub)) :
    (Branch.run args : Routine σ _).Relays sub [] := by
  unfold Branch.run
  dsimp only
  rw [hc, hs]
  exact ⟨rfl, rfl, fun _ => rfl⟩

/-- A single attempt relays the body: after its failure there is nothing but a line in the log. -/
theorem relays_repetition {args : Json} {body : SubPipeline} {policy : Backoff}
    (h : Repetition.arguments args = .ok (body, 1, policy)) :
    (Repetition.run args : Routine σ _).Relays body [] := by
  unfold Repetition.run
  rw [h]
  show (Attempts.remaining (Repetition.attempt body) policy Repetition.id.text 1 0 0 :
    Routine σ _).Relays body []
  unfold Attempts.remaining
  show ((Routine.call body [] Routine.done).bind _).Relays body []
  refine ⟨rfl, rfl, fun answer => ?_⟩
  cases answer with
  | ok value => rfl
  | error error => rfl

end Brick

/-- A control-flow step that only runs one sub-pipeline. -/
inductive Wrapper where
  | whenTrue
  /-- The other branch is not taken. -/
  | whenFalse (other : Pipeline)
  | once

namespace Wrapper

def control : Wrapper → Control
  | .whenTrue | .whenFalse _ => .ifElse
  | .once => .retry

/-- The arguments of the step. -/
def config (steps : Pipeline) : Wrapper → Entries Expr
  | .whenTrue => [("condition", .literal (.bool true)), ("if", .ofSteps steps)]
  | .whenFalse other => [("condition", .literal (.bool false)), ("else", .ofSteps steps),
      ("if", .ofSteps other)]
  | .once => [("body", .ofSteps steps), ("maxRetries", .literal (.nat 1))]

/-- The step around a pipeline. -/
def step (wrapper : Wrapper) (steps : Pipeline) : Step :=
  .mk wrapper.control.id (wrapper.config steps) none none none none none none

def args (wrapper : Wrapper) (steps : Pipeline) : Json :=
  .object (Expr.entriesToJson (wrapper.config steps))

theorem render_eq (wrapper : Wrapper) (steps : Pipeline) (renderers : Renderers)
    (mode : RenderMode) (ctx : Context) :
    Render.arguments renderers mode ctx (wrapper.config steps) = .ok (wrapper.args steps) := by
  cases mode <;> cases wrapper <;> rfl

/-- The arguments are valid, whatever the sub-pipelines are. -/
theorem valid (wrapper : Wrapper) (steps : Pipeline) :
    Schema.violations (wrapper.args steps)
      (wrapper.control.brick : Brick σ).inputSchema = [] := by
  have tagged : ∀ name ∈ wrapper.control.branches, ∀ value,
      Entries.get? name (Expr.entriesToJson (wrapper.config steps)) = some value →
        value.IsTagged := by
    have hsub (sub : Pipeline) : (Expr.ofSteps sub).toJson.IsTagged :=
      Expr.isTagged_pipeline sub none
    cases wrapper <;>
      simp [control, Control.branches, config, Expr.entriesToJson, Entries.get?_cons, hsub]
  have houtline := Validator.sparesPipelines_violations wrapper.control _ tagged
  rw [Control.inputSchema_brick, args, ← houtline]
  -- The outline is the same for all sub-pipelines, so the empty ones stand for all.
  have hempty : ∀ empty ∈ [whenTrue, whenFalse [], once], Schema.violations (empty.args [])
      (empty.control.brick : Brick Unit).inputSchema = [] := by decide +kernel
  cases wrapper with
  | whenTrue => exact hempty whenTrue (by simp)
  | whenFalse other => exact hempty (whenFalse []) (by simp)
  | once => exact hempty once (by simp)

/-- The brick of the step relays the pipeline. -/
theorem relays (wrapper : Wrapper) {steps : Pipeline} (legible : Expr.LegibleSteps steps)
    (access : Brick.Access) :
    ((wrapper.control.brick : Brick σ).run (wrapper.args steps) access).Relays
      ⟨steps, none⟩ [] := by
  have hread (id : BrickId) (name : String)
      (h : (wrapper.args steps).get? name = some (Expr.ofSteps steps).toJson) :
      subPipeline? id (wrapper.args steps) name = .ok (some ⟨steps, none⟩) :=
    subPipeline?_of_get? id legible h
  cases wrapper with
  | whenTrue =>
    refine Brick.relays_branch true rfl ?_
    unfold Brick.Branch.select subPipeline
    rw [hread Brick.Branch.id "if" rfl]
    rfl
  | whenFalse other => exact Brick.relays_branch false rfl (hread Brick.Branch.id "else" rfl)
  | once =>
    have hargs : Brick.Repetition.arguments (once.args steps) =
        .ok (⟨steps, none⟩, 1, .immediate) := by
      unfold Brick.Repetition.arguments subPipeline
      rw [hread Brick.Repetition.id "body" rfl]
      rfl
    exact Brick.relays_repetition hargs

end Wrapper

namespace Host

variable (host : Host σ) (info : RunInfo)

theorem alertFor?_of_quiet {step : Step} (quiet : step.alerts = false) (error : Error) :
    alertFor? info step error = none := by
  unfold alertFor?
  rw [quiet]
  rfl

/-- A failure with a layer around it leaves a step as it is, but for the mark of an alert. -/
theorem leave_of_isContext (step : Step) (ctx : Context) {error : Error}
    (h : error.isContext = true) :
    leave info step ctx error =
      if (alertFor? info step error).isSome then markAlerted error else error := by
  have hw : wrap step ctx error = error := if_pos h
  unfold leave
  rw [hw]
  cases alertFor? info step error <;> rfl

/-- A step whose brick relays a sub-pipeline, and which does not alert, answers as the sub-pipeline
does and reports what that reports and then its own record. -/
theorem visitRun_of_relays (depth : Nat) {visit : Visit σ} {brick : Brick σ} {args : Json}
    {sub : SubPipeline} (prepared : host.prepared info visit = .ready brick args)
    (relays : (host.routine info visit brick args).Relays sub [])
    (quiet : visit.step.alerts = false) :
    let nested := host.runPipeline info depth
    let ran := host.visitRun info nested visit
    let inner := Call.run nested ⟨sub, visit.context, [], visit.state⟩
    ran.answer = inner.answer.map (Except.map some) ∧ ran.state = inner.state ∧
      Event.reports ran.events = Event.reports inner.events ++
        (inner.answer.map fun answer => Event.trace
          (record info visit.step visit.index args (outcome (answer.map some)))).toList := by
  intro nested ran inner
  obtain ⟨hanswer, hstate, hcalls⟩ := relays.exec nested
    (some (.brick visit.step.id visit.index)) visit.context visit.state
  have hreports : Event.reports (host.brickRun info nested visit brick args).events =
      Event.reports inner.events := by
    rw [reports_brickRun, hcalls, List.flatMap_singleton]
  have hs : ran.state = inner.state :=
    (host.visitRun_state info nested visit prepared).trans hstate
  cases host.passage info nested visit with
  | refused other _ _ => cases other.symm.trans prepared
  | skipped other _ _ => cases other.symm.trans prepared
  | tooDeep other deep leaves reports =>
    cases other.symm.trans prepared
    have hinner : inner.answer = none := hanswer.symm.trans deep
    refine ⟨?_, hs, ?_⟩
    · rw [hinner]
      exact leaves
    · rw [reports, hreports, hinner]
      exact (List.append_nil _).symm
  | @failed _ _ error other fails leaves reports =>
    cases other.symm.trans prepared
    have hinner : inner.answer = some (.error error) := hanswer.symm.trans fails
    -- The sub-pipeline has put a layer around its failure, so the step adds none.
    have hleave : leave info visit.step visit.context error = error := by
      rw [leave_of_isContext info visit.step visit.context (isContext_of_error _ hinner),
        alertFor?_of_quiet info quiet]
      rfl
    rw [hleave] at leaves reports
    refine ⟨?_, hs, ?_⟩
    · rw [hinner]
      exact leaves
    · rw [reports, hreports, hinner, alertFor?_of_quiet info quiet]
      simp [Except.map, outcome]
  | @completed _ _ value other completes leaves reports =>
    cases other.symm.trans prepared
    have hinner : inner.answer = some (.ok value) := hanswer.symm.trans completes
    refine ⟨?_, hs, ?_⟩
    · rw [hinner]
      exact leaves
    · rw [reports, hreports, hinner]
      rfl

/-- The run of a single step. -/
theorem runPipeline_single (depth : Nat) (step : Step) (ctx : Context) (state : σ) :
    host.runPipeline info (depth + 1) [step] ctx state =
      let ran := host.visitRun info (host.runPipeline info depth)
        ⟨step, 0, ctx, (ctx.get? inputKey).getD .null, state⟩
      ⟨ran.events, ran.state, ran.answer.map (Except.map fun value => value.getD .null)⟩ := by
  unfold runPipeline
  rw [runSteps_cons]
  dsimp only
  rcases (host.visitRun info (host.runPipeline info depth)
    ⟨step, 0, ctx, (ctx.get? inputKey).getD .null, state⟩).answer with _ | error | value
  · rfl
  · rfl
  · simp [runSteps, Exec.pure_eq, Exec.done, Except.map]

/-- The record of a step around a pipeline, by the answer of the pipeline. -/
def wrapperRecord (wrapper : Wrapper) (steps : Pipeline) (answer : Except Error Json) :
    Trace.Record :=
  record info (wrapper.step steps) 0 (wrapper.args steps) (outcome (answer.map some))

/-- A step without a condition is ready once its brick accepts its arguments. -/
theorem prepare_of_valid {version : ApiVersion} {step : Step} {ctx : Context} {running : Json}
    {brick : Brick σ} {args : Json} (unreserved : step.outputKey.filter isReserved = none)
    (unconditional : step.condition = none)
    (registered : host.registry.get? step.id.text = some brick)
    (rendered : ∀ renderCtx, Render.arguments host.renderers
      (version.renderMode step.templateEngine) renderCtx step.config = .ok args)
    (valid : host.validator args brick.inputSchema = []) :
    host.prepare version step ctx running = .ready brick args := by
  have hholds (mode : RenderMode) (renderCtx : Context) :
      host.holds mode renderCtx step = .ok true := by
    unfold holds
    rw [unconditional]
  unfold prepare
  rw [unreserved]
  dsimp only
  rw [hholds]
  dsimp only
  unfold prepareArguments
  rw [registered]
  dsimp only
  rw [rendered]
  dsimp only
  rw [valid]

theorem prepare_wrapper (wrapper : Wrapper)
    (registered : host.registry.get? wrapper.control.id.text = some wrapper.control.brick)
    (validates : host.validator = Schema.violations) (steps : Pipeline) (ctx : Context)
    (running : Json) :
    host.prepare info.apiVersion (wrapper.step steps) ctx running =
      .ready wrapper.control.brick (wrapper.args steps) := by
  refine host.prepare_of_valid rfl rfl registered (wrapper.render_eq steps host.renderers _) ?_
  rw [validates]
  exact wrapper.valid steps

/-- Running a pipeline that was read inside such a step is running the pipeline: the answer, the
state that is left and the alerts are the same, and to the records that of the step is added. -/
theorem runPipeline_wrapped {origin : Wire.Origin} {tree : Json.Tree} {steps : Pipeline}
    (wrapper : Wrapper)
    (registered : host.registry.get? wrapper.control.id.text = some wrapper.control.brick)
    (validates : host.validator = Schema.violations)
    (read : Pipeline.read origin tree = .ok steps) (depth : Nat) (ctx : Context) (state : σ) :
    let outer := host.runPipeline info (depth + 1) [wrapper.step steps] ctx state
    let inner := host.runPipeline info depth steps ctx state
    outer.answer = inner.answer ∧ outer.state = inner.state ∧
      Event.alerts outer.events = Event.alerts inner.events ∧
      Event.records outer.events = Event.records inner.events ++
        (inner.answer.map (wrapperRecord info wrapper steps)).toList := by
  intro outer inner
  let visit : Visit σ := ⟨wrapper.step steps, 0, ctx, (ctx.get? inputKey).getD .null, state⟩
  have prepared : host.prepared info visit = .ready wrapper.control.brick (wrapper.args steps) :=
    host.prepare_wrapper info wrapper registered validates steps ctx _
  have relays := wrapper.relays (σ := σ) (Pipeline.legible_of_read read)
    (host.access info visit.step wrapper.control.brick visit.context)
  obtain ⟨hanswer, hstate, hreports⟩ :=
    host.visitRun_of_relays info depth prepared relays rfl
  have houter : outer = _ := host.runPipeline_single info depth (wrapper.step steps) ctx state
  have hreports : Event.reports outer.events = Event.reports inner.events ++
      (inner.answer.map fun answer =>
        Event.trace (wrapperRecord info wrapper steps answer)).toList := by
    rw [houter]
    exact hreports
  refine ⟨?_, ?_, ?_, ?_⟩
  · rw [houter]
    dsimp only
    rw [hanswer]
    show (inner.answer.map _).map _ = inner.answer
    rcases inner.answer with _ | error | value <;> rfl
  · rw [houter]
    exact hstate
  · rw [← Event.alerts_reports, hreports, Event.alerts_append, Event.alerts_reports]
    cases inner.answer <;> simp [Event.alerts]
  · rw [← Event.records_reports, hreports, Event.records_append, Event.records_reports]
    cases inner.answer <;> rfl

theorem runPipeline_wrapped_sample :
    let wrapper := Wrapper.whenFalse [Sample.throwing "not taken"]
    let outer := Sample.host.runPipeline Sample.info 3 [wrapper.step Sample.steps] .empty ()
    outer.answer = Sample.ran.answer ∧ (Event.alerts outer.events).length = 2 ∧
      (Event.records outer.events).length = 4 := by
  intro wrapper outer
  have registered : Sample.host.registry.get? Brick.Branch.id.text = some Brick.ifElse := rfl
  have read : Pipeline.read .text Sample.tree = .ok Sample.steps := rfl
  have halerts : (Event.alerts Sample.ran.events).length = 2 := by decide +kernel
  have hrecords : (Event.records Sample.ran.events).length = 3 := by decide +kernel
  obtain ⟨error, hanswer⟩ := Sample.ran_answer
  obtain ⟨ha, -, hsent, hmade⟩ :=
    Sample.host.runPipeline_wrapped Sample.info wrapper registered rfl read 2 .empty ()
  have hran : Sample.host.runPipeline Sample.info 2 Sample.steps .empty () = Sample.ran := rfl
  rw [hran] at ha hsent hmade
  refine ⟨ha, ?_, ?_⟩
  · rw [hsent, halerts]
  · rw [hmade, hanswer, List.length_append, hrecords]
    rfl

end Host
end BrickPipeline
