import BrickPipeline.Proofs.History

/-!
Two runs side by side. If the steps of both are prepared alike and fail alike, and the bricks of
both make the same requests as long as they are answered alike, the runs leave the same events
behind, as far as these are looked at, and answer alike. What is written to the log is no request,
so runs that differ in that alone are alike.
-/
namespace BrickPipeline

variable {σ α β γ δ : Type}

/-- The same value, or failures that are alike. -/
inductive AlikeResult (like : Error → Error → Prop) : Except Error α → Except Error α → Prop where
  | ok (value : α) : AlikeResult like (.ok value) (.ok value)
  | error {first second : Error} (alike : like first second) :
    AlikeResult like (.error first) (.error second)

theorem AlikeResult.refl {like : Error → Error → Prop} (hl : ∀ error, like error error) :
    ∀ result : Except Error α, AlikeResult like result result
  | .ok value => .ok value
  | .error failure => .error (hl failure)

/-- Two runs with the same events among those that are looked at, the same state, and related
answers. -/
structure Ran.Alike (seen : Event → Bool) (rel : α → β → Prop) (first : Ran σ α)
    (second : Ran σ β) : Prop where
  events : first.events.filter seen = second.events.filter seen
  state : first.state = second.state
  answer : Option.Rel rel first.answer second.answer

theorem Ran.Alike.answer_eq {seen : Event → Bool} {first second : Ran σ α}
    (h : first.Alike seen Eq second) : first.answer = second.answer := by
  have hanswer := h.answer
  generalize first.answer = left at hanswer ⊢
  generalize second.answer = right at hanswer ⊢
  cases hanswer with
  | none => rfl
  | some heq => rw [heq]

/-- Two computations that run alike from every state. -/
def Exec.Alike (seen : Event → Bool) (rel : α → β → Prop) (first : Exec σ α)
    (second : Exec σ β) : Prop :=
  ∀ state, Ran.Alike seen rel (first state) (second state)

namespace Exec

variable {seen : Event → Bool}

theorem alike_done {rel : α → β → Prop} {first : α} {second : β} (h : rel first second) :
    Alike seen rel (done first : Exec σ α) (done second) :=
  fun _ => ⟨rfl, rfl, .some h⟩

theorem alike_refl (exec : Exec σ α) : Alike seen Eq exec exec := by
  intro state
  refine ⟨rfl, rfl, ?_⟩
  cases (exec state).answer with
  | none => exact .none
  | some answer => exact .some rfl

theorem alike_tooDeep (rel : α → β → Prop) :
    Alike seen rel (tooDeep : Exec σ α) (tooDeep : Exec σ β) :=
  fun _ => ⟨rfl, rfl, .none⟩

/-- Going on alike after computations that run alike. -/
theorem Alike.bind {rel : α → β → Prop} {more : γ → δ → Prop} {first : Exec σ α}
    {second : Exec σ β} {next : α → Exec σ γ} {other : β → Exec σ δ}
    (hf : Alike seen rel first second)
    (hn : ∀ a b, rel a b → Alike seen more (next a) (other b)) :
    Alike seen more (first.bind next) (second.bind other) := by
  intro state
  obtain ⟨hevents, hstate, hanswer⟩ := hf state
  cases ha : (first state).answer with
  | none =>
    cases hb : (second state).answer with
    | some b =>
      rw [ha, hb] at hanswer
      cases hanswer
    | none =>
      rw [bind_apply_of_none ha, bind_apply_of_none hb]
      exact ⟨hevents, hstate, .none⟩
  | some a =>
    cases hb : (second state).answer with
    | none =>
      rw [ha, hb] at hanswer
      cases hanswer
    | some b =>
      rw [ha, hb] at hanswer
      obtain ⟨hab⟩ := hanswer
      have hnext := hn a b hab (first state).state
      rw [bind_apply_of_answer ha, bind_apply_of_answer hb, ← hstate]
      refine ⟨?_, hnext.state, hnext.answer⟩
      rw [List.filter_append, List.filter_append, hevents, hnext.events]

/-- Lines of the log are alike if the log is not looked at. -/
theorem alike_log (hseen : ∀ line, seen (.log line) = false) (span other : Option Log.Span)
    (entry line : Log.Entry) : Alike seen Eq (log span entry : Exec σ Unit) (log other line) := by
  intro state
  have hevents : [Event.log ⟨entry, span⟩].filter seen = [Event.log ⟨line, other⟩].filter seen := by
    simp [hseen]
  exact ⟨hevents, rfl, .some rfl⟩

/-- Trace records are alike if they are not looked at. -/
theorem alike_trace (hseen : ∀ made, seen (.trace made) = false) (made other : Trace.Record) :
    Alike seen Eq (emit (.trace made) : Exec σ Unit) (emit (.trace other)) := by
  intro state
  have hevents : [Event.trace made].filter seen = [Event.trace other].filter seen := by
    simp [hseen]
  exact ⟨hevents, rfl, .some rfl⟩

/-- Both go on with the same step. -/
theorem alike_bind_same {more : γ → δ → Prop} {first : Exec σ α} {next : α → Exec σ γ}
    {other : α → Exec σ δ} (hn : ∀ a, Alike seen more (next a) (other a)) :
    Alike seen more (first.bind next) (first.bind other) :=
  (alike_refl first).bind fun a _ hab => hab ▸ hn a

end Exec

namespace Routine

/-- Two routines that make the same requests and answer alike, as long as the pipelines that they
ask for are answered alike. -/
def Alike (like : Error → Error → Prop) :
    Routine σ (Except Error Json) → Routine σ (Except Error Json) → Prop
  | done first, done second => AlikeResult like first second
  | log entry next, log line other => entry = line ∧ Alike like next other
  | wait duration next, wait time other => duration = time ∧ Alike like next other
  | call sub bindings next, call asked added other =>
    (sub = asked ∧ bindings = added) ∧
      ∀ first second, AlikeResult like first second → Alike like (next first) (other second)
  | get next, get other => ∀ state, Alike like (next state) (other state)
  | set state next, set left other => state = left ∧ Alike like next other
  | _, _ => False

variable {like : Error → Error → Prop}

/-- A routine that runs no pipelines is like itself. -/
theorem alike_of_callFree (hl : ∀ error, like error error)
    {routine : Routine σ (Except Error Json)} (h : routine.CallFree) :
    routine.Alike like routine := by
  induction routine with
  | done answer => exact AlikeResult.refl hl answer
  | log _ _ ih => exact ⟨rfl, ih h⟩
  | wait _ _ ih => exact ⟨rfl, ih h⟩
  | call _ _ _ => exact h.elim
  | get _ ih => exact fun state => ih state (h state)
  | set _ _ ih => exact ⟨rfl, ih h⟩

/-- Going on alike after routines that are alike. -/
theorem Alike.bind {next other : Except Error Json → Routine σ (Except Error Json)}
    (hn : ∀ first second, AlikeResult like first second → (next first).Alike like (other second)) :
    ∀ {routine twin : Routine σ (Except Error Json)}, routine.Alike like twin →
      (routine.bind next).Alike like (twin.bind other) := by
  intro routine
  induction routine with
  | done answer =>
    intro twin h
    cases twin with
    | done result => exact hn answer result h
    | _ => exact h.elim
  | log _ _ ih =>
    intro twin h
    cases twin with
    | log _ _ => exact ⟨h.1, ih h.2⟩
    | _ => exact h.elim
  | wait _ _ ih =>
    intro twin h
    cases twin with
    | wait _ _ => exact ⟨h.1, ih h.2⟩
    | _ => exact h.elim
  | call _ _ _ ih =>
    intro twin h
    cases twin with
    | call _ _ _ => exact ⟨h.1, fun first second hab => ih first (h.2 first second hab)⟩
    | _ => exact h.elim
  | get _ ih =>
    intro twin h
    cases twin with
    | get _ => exact fun state => ih state (h state)
    | _ => exact h.elim
  | set _ _ ih =>
    intro twin h
    cases twin with
    | set _ _ => exact ⟨h.1, ih h.2⟩
    | _ => exact h.elim

/-- Routines that make the same requests are carried out alike by runners that are alike. -/
theorem Alike.exec {seen : Event → Bool} {near : Context → Context → Prop}
    {nested other : Runner σ} (hrefl : ∀ ctx, near ctx ctx)
    (hbind : ∀ first second bindings, near first second →
      near (first.bindAll bindings) (second.bindAll bindings))
    (hnested : ∀ steps first second, near first second →
      Exec.Alike seen (AlikeResult like) (nested steps first) (other steps second))
    (span : Option Log.Span) {first second : Context} (hctx : near first second) :
    ∀ {routine twin : Routine σ (Except Error Json)}, routine.Alike like twin →
      Exec.Alike seen (AlikeResult like) (routine.exec nested span first)
        (twin.exec other span second) := by
  intro routine
  induction routine with
  | done answer =>
    intro twin h
    cases twin with
    | done _ => exact Exec.alike_done h
    | _ => exact h.elim
  | log entry next ih =>
    intro twin h
    cases twin with
    | log line rest =>
      obtain ⟨rfl, h⟩ := h
      exact Exec.alike_bind_same fun _ => ih h
    | _ => exact h.elim
  | wait duration next ih =>
    intro twin h
    cases twin with
    | wait time rest =>
      obtain ⟨rfl, h⟩ := h
      exact Exec.alike_bind_same fun _ => ih h
    | _ => exact h.elim
  | call sub bindings next ih =>
    intro twin h
    cases twin with
    | call asked added rest =>
      obtain ⟨⟨rfl, rfl⟩, h⟩ := h
      -- A captured environment is the same in both runs.
      have hbase : near (sub.environment.getD first) (sub.environment.getD second) := by
        cases sub.environment with
        | none => exact hctx
        | some environment => exact hrefl environment
      exact (hnested sub.steps _ _ (hbind _ _ bindings hbase)).bind fun a b hab =>
        ih a (h a b hab)
    | _ => exact h.elim
  | get next ih =>
    intro twin h
    cases twin with
    | get rest => exact fun state => ih state (h state) state
    | _ => exact h.elim
  | set left next ih =>
    intro twin h
    cases twin with
    | set state rest =>
      obtain ⟨rfl, h⟩ := h
      exact fun _ => ih h left
    | _ => exact h.elim

/-- Two routines that make the same requests and have the same answer, but for what they write to
the log. -/
inductive SameRequests : Routine σ α → Routine σ α → Prop where
  | done (answer : α) : SameRequests (.done answer) (.done answer)
  | log (entry line : Log.Entry) {next other : Routine σ α} (h : SameRequests next other) :
    SameRequests (.log entry next) (.log line other)
  | wait (duration : Duration) {next other : Routine σ α} (h : SameRequests next other) :
    SameRequests (.wait duration next) (.wait duration other)
  | call (sub : SubPipeline) (bindings : List (String × Json))
    {next other : Except Error Json → Routine σ α}
    (h : ∀ answer, SameRequests (next answer) (other answer)) :
    SameRequests (.call sub bindings next) (.call sub bindings other)
  | get {next other : σ → Routine σ α} (h : ∀ state, SameRequests (next state) (other state)) :
    SameRequests (.get next) (.get other)
  | set (state : σ) {next other : Routine σ α} (h : SameRequests next other) :
    SameRequests (.set state next) (.set state other)

namespace SameRequests

theorem refl (routine : Routine σ α) : SameRequests routine routine := by
  induction routine with
  | done answer => exact .done answer
  | log entry _ ih => exact .log entry entry ih
  | wait duration _ ih => exact .wait duration ih
  | call sub bindings _ ih => exact .call sub bindings ih
  | get _ ih => exact .get ih
  | set state _ ih => exact .set state ih

variable {routine twin : Routine σ α} (h : SameRequests routine twin) (nested : Runner σ)
  (ctx : Context)

include h

/-- Routines with the same requests do the same, in whatever activity they are carried out. -/
theorem exec {seen : Event → Bool} (hseen : ∀ line, seen (.log line) = false)
    (span other : Option Log.Span) :
    Exec.Alike seen Eq (routine.exec nested span ctx) (twin.exec nested other ctx) := by
  induction h with
  | done answer => exact Exec.alike_refl _
  | log entry line _ ih =>
    apply (Exec.alike_log hseen span other entry line).bind
    intro _ _ _
    exact ih
  | wait duration _ ih =>
    apply Exec.alike_bind_same
    intro _
    exact ih
  | call sub bindings _ ih =>
    apply Exec.alike_bind_same
    intro answer
    exact ih answer
  | get _ ih => exact fun state => ih state state
  | set state _ ih => exact fun _ => ih state

/-- Routines with the same requests ask for the same sub-pipelines. -/
theorem calls (state : σ) : routine.calls nested ctx state = twin.calls nested ctx state := by
  induction h generalizing state with
  | done _ => rfl
  | log _ _ _ ih => exact ih state
  | wait _ _ ih => exact ih state
  | call sub bindings _ ih =>
    simp only [Routine.calls]
    cases (Call.run nested ⟨sub, ctx, bindings, state⟩).answer with
    | none => rfl
    | some answer => simp only [ih answer]
  | get _ ih => exact ih state state
  | set left _ ih => exact ih left

end SameRequests

end Routine

/-- Failures that are alike show the same to whoever catches, logs or reports them. -/
structure Error.SameReport (like : Error → Error → Prop) : Prop where
  refl : ∀ error, like error error
  message : ∀ first second, like first second → first.message = second.message
  toJson : ∀ first second, like first second → first.toJson = second.toJson
  name : ∀ first second, like first second → first.cause.name = second.cause.name

namespace Error

/-- The failure with something else for the bindings and the mark of each of its layers. -/
def mapLayers (f : Entries Json → Bool → Entries Json × Bool) : Error → Error
  | .context brickId bindings alerted source =>
    .context brickId (f bindings alerted).1 (f bindings alerted).2 (mapLayers f source)
  | error => error

variable (f : Entries Json → Bool → Entries Json × Bool)

@[simp] theorem isContext_mapLayers (error : Error) :
    (error.mapLayers f).isContext = error.isContext := by
  cases error <;> rfl

@[simp] theorem cause_mapLayers (error : Error) : (error.mapLayers f).cause = error.cause := by
  induction error with
  | context _ _ _ _ ih => exact ih
  | _ => rfl

@[simp] theorem message_mapLayers (error : Error) :
    (error.mapLayers f).message = error.message := by
  induction error with
  | context brickId _ _ _ ih =>
    exact congrArg (fun text => s!"Error running brick '{brickId}': " ++ text) ih
  | _ => rfl

@[simp] theorem innermostBrick?_mapLayers (error : Error) :
    (error.mapLayers f).innermostBrick? = error.innermostBrick? := by
  induction error with
  | context _ _ _ _ ih => simp only [mapLayers, innermostBrick?, ih]
  | _ => rfl

@[simp] theorem toJson_mapLayers (error : Error) : (error.mapLayers f).toJson = error.toJson := by
  simp [toJson]

/-- The bindings and marks in a failure show nowhere but in the failure itself. -/
theorem sameReport_mapLayers :
    SameReport fun first second => first.mapLayers f = second.mapLayers f where
  refl := fun _ => rfl
  message := fun first second h => by
    rw [← message_mapLayers f first, h, message_mapLayers]
  toJson := fun first second h => by
    rw [← toJson_mapLayers f first, h, toJson_mapLayers]
  name := fun first second h => by
    rw [← cause_mapLayers f first, h, cause_mapLayers]

end Error

/-! The control-flow bricks, which only report the failures that they meet or hand them on. -/

namespace Brick

variable {like : Error → Error → Prop}

/-- Running a sub-pipeline and answering as it does. -/
theorem alike_call (sub : SubPipeline) (bindings : List (String × Json)) :
    (Routine.call sub bindings .done : Routine σ _).Alike like (.call sub bindings .done) :=
  ⟨⟨rfl, rfl⟩, fun _ _ h => h⟩

theorem alike_attempt (body : SubPipeline) (number : Nat) :
    (Repetition.attempt body number : Routine σ _).Alike like (Repetition.attempt body number) := by
  unfold Repetition.attempt
  dsimp only
  split
  · exact alike_call _ _
  · exact ⟨rfl, alike_call _ _⟩

variable (report : Error.SameReport like)

include report

theorem alike_done (answer : Except Error Json) :
    (Routine.done answer : Routine σ _).Alike like (.done answer) :=
  AlikeResult.refl report.refl answer

theorem alike_branch (args : Json) :
    (Branch.run args : Routine σ _).Alike like (Branch.run args) := by
  unfold Branch.run
  refine ⟨rfl, ?_⟩
  split
  · exact alike_done report _
  · exact alike_done report _
  · exact alike_call _ _

theorem alike_each (body : SubPipeline) (key : String) (elements : List Json) (index : Nat)
    (last : Json) :
    (Loop.each body key elements index last : Routine σ _).Alike like
      (Loop.each body key elements index last) := by
  induction elements generalizing index last with
  | nil => exact alike_done report _
  | cons element rest ih =>
    refine ⟨rfl, ⟨rfl, rfl⟩, fun first second h => ?_⟩
    cases h with
    | ok value => exact ih (index + 1) value
    | error alike => exact AlikeResult.error alike

theorem alike_loop (args : Json) : (Loop.run args : Routine σ _).Alike like (Loop.run args) := by
  unfold Loop.run
  split
  · exact alike_done report _
  · exact alike_each report _ _ _ _ _

theorem alike_handle (handler : Option SubPipeline) (key : String) {first second : Error}
    (h : like first second) :
    (Containment.handle handler key first : Routine σ _).Alike like
      (Containment.handle handler key second) := by
  unfold Containment.handle
  rw [report.message _ _ h, report.toJson _ _ h, report.name _ _ h]
  refine ⟨rfl, ?_⟩
  cases handler with
  | none => exact alike_done report _
  | some sub => exact alike_call _ _

theorem alike_containment (args : Json) :
    (Containment.run args : Routine σ _).Alike like (Containment.run args) := by
  unfold Containment.run
  split
  · exact alike_done report _
  · refine ⟨⟨rfl, rfl⟩, fun first second h => ?_⟩
    cases h with
    | ok value => exact alike_done report _
    | error alike => exact alike_handle report _ _ alike

theorem alike_remaining (body : SubPipeline) (policy : Backoff) (label : String)
    (maxAttempts spare failures : Nat) :
    (Attempts.remaining (Repetition.attempt body) policy label maxAttempts spare failures :
      Routine σ _).Alike like
        (Attempts.remaining (Repetition.attempt body) policy label maxAttempts spare failures) := by
  induction spare generalizing failures with
  | zero =>
    unfold Attempts.remaining
    refine (alike_attempt body failures).bind fun first second h => ?_
    cases h with
    | ok value => exact alike_done report _
    | error alike => exact ⟨rfl, .error alike⟩
  | succ spare ih =>
    unfold Attempts.remaining
    refine (alike_attempt body failures).bind fun first second h => ?_
    cases h with
    | ok value => exact alike_done report _
    | error alike =>
      -- What is logged about a failed attempt is its message.
      refine ⟨?_, rfl, ih (failures + 1)⟩
      unfold Attempts.retrying
      rw [report.message _ _ alike]

theorem alike_repetition (args : Json) :
    (Repetition.run args : Routine σ _).Alike like (Repetition.run args) := by
  unfold Repetition.run
  split
  · exact alike_done report _
  · exact alike_remaining report _ _ _ _ _ _

end Brick

/-- The built-in bricks make the same requests whatever else they may use. -/
theorem Registry.alike_standard {like : Error → Error → Prop} (report : Error.SameReport like) :
    ∀ id brick, (standard : Registry σ).get? id = some brick → ∀ args access other,
      (brick.run args access).Alike like (brick.run args other) := by
  refine forall_standard (P := fun _ brick => ∀ args access other,
    (brick.run args access).Alike like (brick.run args other)) fun brick hm args access other => ?_
  simp only [List.mem_cons, List.not_mem_nil, or_false] at hm
  rcases hm with rfl | rfl | rfl | rfl | rfl | rfl | rfl
  · exact Brick.alike_branch report args
  · exact Brick.alike_loop report args
  · exact Brick.alike_containment report args
  · exact Brick.alike_repetition report args
  · exact Brick.alike_done report _
  · exact Brick.alike_done report _
  · exact ⟨rfl, Brick.alike_done report _⟩

namespace Host

/-- What two hosts must have in common for their runs to be alike: contexts that are near are
prepared to the same effect, failures that are alike leave a step alike, and bricks make the same
requests. -/
structure Lockstep (host other : Host σ) (info twin : RunInfo) (near : Context → Context → Prop)
    (carried : Json → Json → Prop) (like : Error → Error → Prop) (seen : Event → Bool) :
    Prop where
  runId : info.runId = twin.runId
  near_refl : ∀ ctx, near ctx ctx
  near_bind : ∀ first second key value, near first second →
    near (first.bind key value) (second.bind key value)
  carried_refl : ∀ value, carried value value
  carried_input : ∀ first second, near first second →
    carried ((first.get? inputKey).getD .null) ((second.get? inputKey).getD .null)
  like_refl : ∀ error, like error error
  prepare : ∀ step first second running value, near first second → carried running value →
    host.prepare info.apiVersion step first running =
      other.prepare twin.apiVersion step second value
  fail : ∀ step index first second args error failure, near first second → like error failure →
    Exec.Alike seen (AlikeResult like) (host.fail info step index first args error)
      (other.fail twin step index second args failure)
  routine : ∀ (step : Step) brick args first second,
    host.registry.get? step.id.text = some brick → near first second →
      (brick.run args (host.access info step brick first)).Alike like
        (brick.run args (other.access twin step brick second))

namespace Lockstep

variable {host other : Host σ} {info twin : RunInfo} {near : Context → Context → Prop}
  {carried : Json → Json → Prop} {like : Error → Error → Prop} {seen : Event → Bool}
  (lockstep : Lockstep host other info twin near carried like seen) {nested below : Runner σ}

include lockstep

theorem near_bindAll {first second : Context} (h : near first second)
    (bindings : List (String × Json)) :
    near (first.bindAll bindings) (second.bindAll bindings) := by
  induction bindings generalizing first second with
  | nil => exact h
  | cons binding rest ih => exact ih (lockstep.near_bind first second binding.1 binding.2 h)

variable (hnested : ∀ steps first second, near first second →
    Exec.Alike seen (AlikeResult like) (nested steps first) (below steps second))

include hnested

/-- A step runs alike. -/
theorem runStep (step : Step) (index : Nat) {first second : Context} (hctx : near first second)
    {running value : Json} (hrunning : carried running value) :
    Exec.Alike seen (AlikeResult like) (host.runStep info nested step index first running)
      (other.runStep twin below step index second value) := by
  have hrecord : ∀ args outcome, record info step index args outcome =
      record twin step index args outcome := by
    intro args outcome
    unfold record
    rw [lockstep.runId]
  unfold Host.runStep
  rw [← lockstep.prepare step first second running value hctx hrunning]
  cases hp : host.prepare info.apiVersion step first running with
  | failed args error =>
    exact lockstep.fail step index first second args error error hctx (lockstep.like_refl error)
  | skipped =>
    dsimp only
    rw [hrecord]
    exact Exec.alike_bind_same fun _ => Exec.alike_bind_same fun _ => Exec.alike_done (.ok none)
  | ready brick args =>
    have hb := (host.ready_spec _ step first running hp).1
    have hroutine := (lockstep.routine step brick args first second hb hctx).exec
      lockstep.near_refl (fun _ _ bindings h => lockstep.near_bindAll h bindings) hnested
      (some (.brick step.id index)) hctx
    refine Exec.alike_bind_same fun _ => hroutine.bind fun a b hab => ?_
    cases hab with
    | error alike => exact lockstep.fail step index first second args _ _ hctx alike
    | ok value =>
      dsimp only
      rw [hrecord]
      exact Exec.alike_bind_same fun _ => Exec.alike_bind_same fun _ =>
        Exec.alike_done (.ok (some value))

/-- The remaining steps of a scope run alike. -/
theorem runSteps (steps : Pipeline) (index : Nat) {first second : Context}
    (hctx : near first second) {running value : Json} (hrunning : carried running value)
    (last : Json) :
    Exec.Alike seen (AlikeResult like) (host.runSteps info nested steps index first running last)
      (other.runSteps twin below steps index second value last) := by
  induction steps generalizing index first second running value last with
  | nil => exact Exec.alike_done (.ok last)
  | cons step rest ih =>
    refine (lockstep.runStep hnested step index hctx hrunning).bind fun a b hab => ?_
    cases hab with
    | error alike => exact Exec.alike_done (.error alike)
    | ok left =>
      cases left with
      | none => exact ih (index + 1) hctx hrunning last
      | some left =>
        dsimp only
        cases step.outputKey with
        | none => exact ih (index + 1) hctx (lockstep.carried_refl left) left
        | some key =>
          exact ih (index + 1) (lockstep.near_bind first second (bindingKey key) left hctx)
            hrunning left

omit hnested

/-- A pipeline runs alike in contexts that are near. -/
theorem runPipeline (depth : Nat) (steps : Pipeline) {first second : Context}
    (hctx : near first second) :
    Exec.Alike seen (AlikeResult like) (host.runPipeline info depth steps first)
      (other.runPipeline twin depth steps second) := by
  induction depth generalizing steps first second with
  | zero => exact Exec.alike_tooDeep _
  | succ depth ih =>
    exact lockstep.runSteps (fun steps _ _ h => ih steps h) steps 0 hctx
      (lockstep.carried_input first second hctx) .null

end Lockstep
end Host
end BrickPipeline
