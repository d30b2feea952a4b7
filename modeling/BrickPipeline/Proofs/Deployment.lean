import BrickPipeline.Proofs.Direct
import BrickPipeline.Proofs.Lockstep

/-!
What the deployment of a run changes. Alerts are sent for a deployment or not, and delivered or not,
and a failure is marked when an alert was sent for it. Steps look at the mark only to alert once. So
a run does the same in any deployment and in none, as long as its bricks do not look at the mark.
-/
namespace BrickPipeline

variable {σ : Type}

namespace Error

/-- The failure as if no alert had been sent for it. -/
def unmarked (error : Error) : Error := error.mapLayers fun bindings _ => (bindings, false)

/-- Failures that differ at most in whether an alert was sent for them. -/
def SameButAlerted (first second : Error) : Prop := first.unmarked = second.unmarked

theorem sameReport_sameButAlerted : SameReport SameButAlerted := sameReport_mapLayers _

end Error

open Error

namespace Event

def isRecord : Event → Bool
  | .trace _ => true
  | _ => false

theorem filter_isRecord (events : List Event) :
    events.filter isRecord = (records events).map Event.trace := by
  induction events with
  | nil => rfl
  | cons event rest ih =>
    cases event with
    | trace made => exact congrArg (Event.trace made :: ·) ih
    | log _ => exact ih
    | alert _ => exact ih
    | wait _ => exact ih

theorem filter_isRecord_eq_iff {first second : List Event} :
    first.filter isRecord = second.filter isRecord ↔ records first = records second := by
  have hinj : Function.Injective Event.trace := fun _ _ h => by cases h; rfl
  rw [filter_isRecord, filter_isRecord, List.map_inj_right fun _ _ h => hinj h]

end Event

/-- Whether a brick does not read the deployment of the run. -/
def Brick.ReadsNoDeployment (brick : Brick σ) : Prop :=
  ∀ args (access : Brick.Access) deploymentId,
    brick.run args { access with info := { access.info with deploymentId } } = brick.run args access

/-- Whether a brick neither reads the deployment of the run nor sees of a failure that it meets
whether an alert was sent for it. -/
structure Brick.IgnoresDeployment (brick : Brick σ) : Prop where
  unread : brick.ReadsNoDeployment
  unmarked : ∀ args access, (brick.run args access).Alike SameButAlerted (brick.run args access)

/-- A brick that runs no pipelines meets no failures. -/
theorem Brick.ignoresDeployment_of_callFree {brick : Brick σ} (free : brick.CallFree)
    (unread : brick.ReadsNoDeployment) : brick.IgnoresDeployment where
  unread := unread
  unmarked := fun args access =>
    Routine.alike_of_callFree sameReport_sameButAlerted.refl (free args access)

theorem Registry.readsNoDeployment_standard :
    ∀ id brick, (standard : Registry σ).get? id = some brick → brick.ReadsNoDeployment := by
  refine forall_standard fun brick hm args access deploymentId => ?_
  simp only [List.mem_cons, List.not_mem_nil, or_false] at hm
  rcases hm with rfl | rfl | rfl | rfl | rfl | rfl | rfl <;> rfl

theorem Registry.ignoresDeployment_standard :
    ∀ id brick, (standard : Registry σ).get? id = some brick → brick.IgnoresDeployment :=
  fun id brick h => ⟨readsNoDeployment_standard id brick h, fun args access =>
    alike_standard sameReport_sameButAlerted id brick h args access access⟩

namespace Host

/-- Whatever alert a failing step sends, but for the mark it fails with the wrapped failure. -/
theorem unmarked_leave (info : RunInfo) (step : Step) (ctx : Context) (error : Error) :
    (leave info step ctx error).unmarked = wrap step ctx error.unmarked := by
  have hw : (wrap step ctx error).unmarked = wrap step ctx error.unmarked := by
    unfold wrap Error.unmarked
    rw [isContext_mapLayers]
    split <;> rfl
  have hm : (markAlerted (wrap step ctx error)).unmarked = (wrap step ctx error).unmarked := by
    cases wrap step ctx error <;> rfl
  unfold leave
  split
  · exact hw
  · exact hm.trans hw

theorem sameButAlerted_leave (info twin : RunInfo) (step : Step) (ctx : Context)
    {first second : Error} (h : SameButAlerted first second) :
    SameButAlerted (leave info step ctx first) (leave twin step ctx second) := by
  rw [SameButAlerted, unmarked_leave, unmarked_leave]
  exact congrArg (wrap step ctx) h

theorem records_fail (host : Host σ) (info : RunInfo) (step : Step) (index : Nat) (ctx : Context)
    (args : Json) (error : Error) (state : σ) :
    Event.records (host.fail info step index ctx args error state).events =
      [record info step index args (.error (leave info step ctx error).toJson)] := by
  obtain ⟨-, hr⟩ := host.fail_run info step index ctx args error state
  rw [← Event.records_reports, hr, Event.records_append]
  cases alertFor? info step (wrap step ctx error) <;> rfl

/-- A step fails alike in every deployment and with every alerter. -/
theorem fail_unmarked (host other : Host σ) (info twin : RunInfo) (hr : info.runId = twin.runId)
    (step : Step) (index : Nat) (ctx : Context) (args : Json) {first second : Error}
    (h : SameButAlerted first second) :
    Exec.Alike Event.isRecord (AlikeResult SameButAlerted)
      (host.fail info step index ctx args first) (other.fail twin step index ctx args second) := by
  intro state
  have hleave := sameButAlerted_leave info twin step ctx h
  obtain ⟨hfirst, -⟩ := host.fail_run info step index ctx args first state
  obtain ⟨hsecond, -⟩ := other.fail_run twin step index ctx args second state
  refine ⟨?_, ?_, ?_⟩
  · rw [Event.filter_isRecord_eq_iff, records_fail, records_fail, record, record, hr,
      sameReport_sameButAlerted.toJson _ _ hleave]
  · rw [fail_state, fail_state]
  · rw [hfirst, hsecond]
    exact .some (.error hleave)

/-- Hosts that differ at most in their alerter, in runs that differ at most in their deployment, do
the same. -/
theorem lockstep_deployment (host : Host σ) (info : RunInfo)
    (ignores : ∀ id brick, host.registry.get? id = some brick → brick.IgnoresDeployment)
    (alerter : Alerter σ) (deploymentId : Option String) :
    Lockstep host { host with alerter } info { info with deploymentId } Eq Eq SameButAlerted
      Event.isRecord where
  runId := rfl
  near_refl := fun _ => rfl
  near_bind := fun first second key value h => congrArg (fun ctx => ctx.bind key value) h
  carried_refl := fun _ => rfl
  carried_input := fun first second h => congrArg (fun ctx => (ctx.get? inputKey).getD .null) h
  like_refl := sameReport_sameButAlerted.refl
  prepare := by
    rintro step ctx _ running _ rfl rfl
    rfl
  fail := by
    rintro step index ctx _ args first second rfl h
    exact host.fail_unmarked { host with alerter } info { info with deploymentId } rfl step index
      ctx args h
  routine := by
    rintro step brick args ctx _ hb rfl
    have hignores := ignores _ brick hb
    have hread := hignores.unread args (host.access info step brick ctx) deploymentId
    show (brick.run args (host.access info step brick ctx)).Alike SameButAlerted
      (brick.run args { host.access info step brick ctx with info := { info with deploymentId } })
    exact hread ▸ hignores.unmarked args (host.access info step brick ctx)

end Host

/-- Alerting adds alerts and nothing else. If no brick reads the deployment of the run, or whether
an alert was sent for a failure, then whatever the deployment is, and whichever alerts cannot be
delivered, a run makes the same records, leaves the same state, and ends with the same value or with
failures that differ at most in whether an alert was sent for them. -/
theorem Host.runPipeline_deployment (host : Host σ) (info : RunInfo)
    (ignores : ∀ id brick, host.registry.get? id = some brick → brick.IgnoresDeployment)
    (alerter : Alerter σ) (deploymentId : Option String) (depth : Nat) (steps : Pipeline)
    (ctx : Context) (state : σ) :
    let ran := host.runPipeline info depth steps ctx state
    let other :=
      { host with alerter }.runPipeline { info with deploymentId } depth steps ctx state
    Event.records ran.events = Event.records other.events ∧ ran.state = other.state ∧
      Option.Rel (AlikeResult SameButAlerted) ran.answer other.answer := by
  have lockstep := host.lockstep_deployment info ignores alerter deploymentId
  obtain ⟨events, left, answer⟩ := lockstep.runPipeline depth steps (rfl : ctx = ctx) state
  exact ⟨Event.filter_isRecord_eq_iff.1 events, left, answer⟩

namespace Sample

/-- A brick that counts its calls, which all fail alike. -/
def counting : Brick Nat where
  id := ⟨"acme/call", by decide⟩
  inputSchema := anyObject
  isPure := false
  isRootAware := false
  run := fun _ _ => .get fun calls => .set (calls + 1) (.done (.error (.business "down")))

/-- An alerter that delivers the alerts about every other call. -/
def intermittent : Alerter Nat :=
  ⟨fun _ => [], fun calls _ => if calls % 2 = 0 then none else some (.other "no channel")⟩

def callers : Host Nat := .ofRegistry (Registry.standard.register counting)

theorem ignoresDeployment_callers :
    ∀ id brick, callers.registry.get? id = some brick → brick.IgnoresDeployment :=
  Registry.forall_register Registry.ignoresDeployment_standard
    (Brick.ignoresDeployment_of_callFree (fun _ _ _ => trivial) fun _ _ _ => rfl)

/-- A call that is tried until the attempts are used up, and asks for an alert each time. -/
def tries : Pipeline :=
  [(Step.new Brick.Repetition.id).withArg "body" (.ofSteps [(Step.new counting.id).alerting])]

/-- What happens if not every alert about the calls can be delivered. -/
def tried (deploymentId : Option String) : Ran Nat (Except Error Json) :=
  { callers with alerter := intermittent }.runPipeline { info with deploymentId } 2 tries .empty 0

def undelivered (events : List Event) : Nat :=
  (Event.logLines events).countP (·.entry.message = "Failed to send deployment alert")

end Sample

theorem Host.runPipeline_deployment_sample :
    let deployed := (Sample.tried (some "elsewhere")).events
    ((Event.alerts deployed).map (·.toJson.render)).Pairwise (· = ·) ∧
      (Event.alerts deployed).length = 3 ∧ Sample.undelivered deployed = 2 ∧
      (Event.alerts (Sample.tried none).events).length = 0 ∧
      let ran := Sample.callers.runPipeline Sample.info 2 Sample.tries .empty 0
      ∀ deploymentId ∈ [none, some "elsewhere"],
        let other := Sample.tried deploymentId
        Event.records ran.events = Event.records other.events ∧ ran.state = other.state ∧
          Option.Rel (AlikeResult SameButAlerted) ran.answer other.answer := by
  refine ⟨by decide +kernel, by decide +kernel, by decide +kernel, by decide +kernel, ?_⟩
  intro ran deploymentId _
  exact Sample.callers.runPipeline_deployment Sample.info Sample.ignoresDeployment_callers
    Sample.intermittent deploymentId 2 Sample.tries .empty 0

namespace Sample

/-- A brick that answers whether an alert was sent for the failure of its body. -/
def watching : Brick Unit where
  id := ⟨"acme/watch", by decide⟩
  inputSchema := anyObject
  isPure := false
  isRootAware := false
  run := fun args access =>
    match Arguments.subPipeline access.brickId args "body" with
    | .error error => .done (.error error)
    | .ok body => .call body [] fun answer =>
      match answer with
      | .error error => .done (.ok (.bool error.isAlerted))
      | .ok _ => .done (.ok (.bool false))

def watchers : Host Unit := .ofRegistry (Registry.standard.register watching)

def watched (deploymentId : Option String) : Ran Unit (Except Error Json) :=
  watchers.runPipeline { info with deploymentId } 2
    [(Step.new watching.id).withArg "body" (.ofSteps [throwing "lost"])] .empty ()

def told? (ran : Ran Unit (Except Error Json)) : Option Bool :=
  match ran.answer with
  | some (.ok (.bool told)) => some told
  | _ => none

theorem answer_of_told? {ran : Ran Unit (Except Error Json)} {told : Bool}
    (h : told? ran = some told) : ran.answer = some (.ok (.bool told)) := by
  unfold told? at h
  split at h
  · cases h
    assumption
  · cases h

end Sample

/-- It is not enough that no brick reads the deployment. One that looks at the mark of a failure
answers differently in a deployment and in none, from the same state and without a failure. -/
theorem Host.watched_answers :
    (∀ id brick, Sample.watchers.registry.get? id = some brick → brick.ReadsNoDeployment) ∧
      (Sample.watched none).answer = some (.ok (.bool false)) ∧
      (Sample.watched (some "deployment")).answer = some (.ok (.bool true)) ∧
      ¬ Option.Rel (AlikeResult SameButAlerted) (Sample.watched none).answer
        (Sample.watched (some "deployment")).answer := by
  have hnone : (Sample.watched none).answer = some (.ok (.bool false)) :=
    Sample.answer_of_told? (by decide +kernel)
  have hsome : (Sample.watched (some "deployment")).answer = some (.ok (.bool true)) :=
    Sample.answer_of_told? (by decide +kernel)
  refine ⟨?_, hnone, hsome, fun alike => ?_⟩
  · exact Registry.forall_register Registry.readsNoDeployment_standard fun _ _ _ => rfl
  · rw [hnone, hsome] at alike
    cases alike with
    | some answers => cases answers

end BrickPipeline
