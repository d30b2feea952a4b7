import BrickPipeline.Proofs.InPlace
import BrickPipeline.Proofs.Plain

/-!
What bricks ask for. A control-flow brick asks for sub-pipelines that it reads from its own
arguments, binds at most one value under a key of its own choice, and fails only as a sub-pipeline
did or because it refuses its arguments. So every scope of a run is asked for by a control-flow step
of the scope around it, up to the run itself.
-/
namespace BrickPipeline

open Arguments Error

variable {σ : Type}

namespace Routine

/-- Whether the routine asks for nothing but what it may, and fails only as it may, as long as the
sub-pipelines that it asks for fail only so themselves. -/
def Obeys (asks : SubPipeline → List (String × Json) → Prop) (fails : Error → Prop) :
    Routine σ (Except Error Json) → Prop
  | done answer => FailsOnly fails answer
  | log _ next => Obeys asks fails next
  | wait _ next => Obeys asks fails next
  | call sub bindings next =>
    asks sub bindings ∧ ∀ answer, FailsOnly fails answer → Obeys asks fails (next answer)
  | get next => ∀ state, Obeys asks fails (next state)
  | set _ next => Obeys asks fails next

variable {asks : SubPipeline → List (String × Json) → Prop} {fails : Error → Prop}

/-- Running a sub-pipeline and answering as it does. -/
theorem obeys_call {sub : SubPipeline} {bindings : List (String × Json)} (h : asks sub bindings) :
    (call sub bindings done : Routine σ _).Obeys asks fails :=
  ⟨h, fun _ hf => hf⟩

theorem Obeys.bind {routine : Routine σ (Except Error Json)} (h : routine.Obeys asks fails)
    {next : Except Error Json → Routine σ (Except Error Json)}
    (hn : ∀ answer, FailsOnly fails answer → (next answer).Obeys asks fails) :
    (routine.bind next).Obeys asks fails := by
  induction routine with
  | done answer => exact hn answer h
  | log _ _ ih => exact ih h
  | wait _ _ ih => exact ih h
  | call _ _ _ ih => exact ⟨h.1, fun answer hf => ih answer (h.2 answer hf)⟩
  | get _ ih => exact fun state => ih state (h state)
  | set _ _ ih => exact ih h

/-- What is asked for, and how the routine fails, below a way to run pipelines that fails only as it
may. -/
theorem Obeys.exec (nested : Runner σ) (hnested : ∀ steps ctx state answer,
      (nested steps ctx state).answer = some answer → FailsOnly fails answer)
    (span : Option Log.Span) (ctx : Context) {routine : Routine σ (Except Error Json)}
    (h : routine.Obeys asks fails) (state : σ) :
    (∀ call ∈ routine.calls nested ctx state, asks call.sub call.bindings) ∧
      ∀ answer, (routine.exec nested span ctx state).answer = some answer →
        FailsOnly fails answer := by
  induction routine generalizing state with
  | done result =>
    refine ⟨List.forall_mem_nil _, fun answer ha => ?_⟩
    obtain rfl : result = answer := Option.some.inj ha
    exact h
  | log _ _ ih => exact ih h state
  | wait _ _ ih => exact ih h state
  | call sub bindings next ih =>
    obtain ⟨hasks, hnext⟩ := h
    rw [exec_call]
    simp only [calls]
    cases ha : (Call.run nested ⟨sub, ctx, bindings, state⟩).answer with
    | none =>
      refine ⟨List.forall_mem_singleton.2 hasks, fun answer ha => ?_⟩
      cases ha
    | some answer =>
      obtain ⟨hcalls, hanswer⟩ := ih answer (hnext answer (hnested _ _ _ _ ha)) _
      exact ⟨List.forall_mem_cons.2 ⟨hasks, hcalls⟩, hanswer⟩
  | get _ ih => exact ih state (h state) state
  | set left _ ih => exact ih h left

/-- A routine that runs no pipelines asks for none. -/
theorem calls_of_callFree {routine : Routine σ (Except Error Json)} (h : routine.CallFree)
    (nested : Runner σ) (ctx : Context) (state : σ) : routine.calls nested ctx state = [] := by
  induction routine generalizing state with
  | done _ => rfl
  | log _ _ ih => exact ih h state
  | wait _ _ ih => exact ih h state
  | call _ _ _ => exact h.elim
  | get _ ih => exact ih state (h state) state
  | set left _ ih => exact ih h left

end Routine

namespace Control

/-- The key under which a control-flow brick binds a value for its sub-pipelines, if any. -/
def boundKey? (args : Json) : Control → Option String
  | .forEach => (keyArgument Brick.Loop.id args "elementKey" "element").toOption.map bindingKey
  | .tryExcept => (keyArgument Brick.Containment.id args "errorKey" "error").toOption.map bindingKey
  | .ifElse | .retry => none

/-- What a control-flow brick asks for. -/
structure Asks (control : Control) (args : Json) (sub : SubPipeline)
    (bindings : List (String × Json)) : Prop where
  branch : ∃ name ∈ control.branches, subPipeline? control.id args name = .ok (some sub)
  bindings : bindings = [] ∨
    ∃ key value, control.boundKey? args = some key ∧ bindings = [(key, value)]

end Control

namespace Brick

theorem subPipeline?_of_ok {id : BrickId} {args : Json} {name : String} {sub : SubPipeline}
    (h : subPipeline id args name = .ok sub) : subPipeline? id args name = .ok (some sub) := by
  obtain ⟨found, hf, hs⟩ := Except.ok_of_bind h
  cases found with
  | none => cases hs
  | some found =>
    cases hs
    exact hf

variable {fails : Error → Prop}

theorem obeys_branch (hf : ∀ error, IsRefusal Branch.id error → fails error) (args : Json) :
    (Branch.run args : Routine σ _).Obeys (Control.Asks .ifElse args) fails := by
  unfold Branch.run
  simp only [Routine.Obeys]
  split
  · rename_i error he
    exact .error (hf error (refuses_select _ _ error he))
  · exact .ok _
  · rename_i sub hs
    refine Routine.obeys_call ⟨?_, Or.inl rfl⟩
    unfold Branch.select at hs
    split at hs
    · obtain ⟨found, hfound, hsub⟩ := Except.ok_of_map hs
      cases hsub
      exact ⟨"if", by decide, subPipeline?_of_ok hfound⟩
    · exact ⟨"else", by decide, hs⟩

theorem obeys_each {asks : SubPipeline → List (String × Json) → Prop} {body : SubPipeline}
    {key : String} (h : ∀ element, asks body [(key, element)]) (elements : List Json)
    (index : Nat) (last : Json) :
    (Loop.each body key elements index last : Routine σ _).Obeys asks fails := by
  induction elements generalizing index last with
  | nil => exact .ok _
  | cons element rest ih =>
    refine ⟨h element, fun answer hf => ?_⟩
    cases answer with
    | ok value => exact ih (index + 1) value
    | error error => exact hf

theorem obeys_loop (hf : ∀ error, IsRefusal Loop.id error → fails error) (args : Json) :
    (Loop.run args : Routine σ _).Obeys (Control.Asks .forEach args) fails := by
  unfold Loop.run
  cases ha : Loop.arguments args with
  | error error => exact .error (hf error (refuses_loop args error ha))
  | ok found =>
    obtain ⟨body, key, elements⟩ := found
    obtain ⟨sub, hsub, hrest⟩ := Except.ok_of_bind ha
    obtain ⟨named, hkey, hlast⟩ := Except.ok_of_bind hrest
    split at hlast
    · cases hlast
      refine obeys_each (fun element => ⟨⟨"body", by decide, subPipeline?_of_ok hsub⟩, Or.inr
        ⟨bindingKey named, element, ?_, rfl⟩⟩) elements 0 .null
      rw [Control.boundKey?, hkey]
      rfl
    · cases hlast

theorem obeys_containment (hf : ∀ error, IsRefusal Containment.id error → fails error)
    (args : Json) :
    (Containment.run args : Routine σ _).Obeys (Control.Asks .tryExcept args) fails := by
  unfold Containment.run
  cases ha : Containment.arguments args with
  | error error => exact .error (hf error (refuses_containment args error ha))
  | ok found =>
    obtain ⟨attempt, handler, key⟩ := found
    obtain ⟨first, hsub, hrest⟩ := Except.ok_of_bind ha
    obtain ⟨found, hexcept, hrest⟩ := Except.ok_of_bind hrest
    obtain ⟨named, hkey, hlast⟩ := Except.ok_of_bind hrest
    cases hlast
    refine ⟨⟨⟨"try", by decide, subPipeline?_of_ok hsub⟩, Or.inl rfl⟩, fun answer _ => ?_⟩
    cases answer with
    | ok value => exact .ok _
    | error error =>
      cases handler with
      | none => exact .ok _
      | some sub =>
        refine Routine.obeys_call ⟨⟨"except", by decide, hexcept⟩, Or.inr
          ⟨bindingKey named, error.toJson, ?_, rfl⟩⟩
        rw [Control.boundKey?, hkey]
        rfl

theorem obeys_attempt {asks : SubPipeline → List (String × Json) → Prop} {body : SubPipeline}
    (h : asks body []) (number : Nat) :
    (Repetition.attempt body number : Routine σ _).Obeys asks fails := by
  unfold Repetition.attempt
  dsimp only
  split <;> exact Routine.obeys_call h

theorem obeys_remaining {asks : SubPipeline → List (String × Json) → Prop} {body : SubPipeline}
    (h : asks body []) (policy : Backoff) (label : String) (maxAttempts spare failures : Nat) :
    (Attempts.remaining (Repetition.attempt body) policy label maxAttempts spare failures :
      Routine σ _).Obeys asks fails := by
  induction spare generalizing failures with
  | zero =>
    unfold Attempts.remaining
    refine (obeys_attempt h failures).bind fun answer hf => ?_
    cases answer <;> exact hf
  | succ spare ih =>
    unfold Attempts.remaining
    refine (obeys_attempt h failures).bind fun answer hf => ?_
    cases answer with
    | ok value => exact hf
    | error error => exact ih (failures + 1)

theorem obeys_repetition (hf : ∀ error, IsRefusal Repetition.id error → fails error)
    (args : Json) :
    (Repetition.run args : Routine σ _).Obeys (Control.Asks .retry args) fails := by
  unfold Repetition.run
  cases ha : Repetition.arguments args with
  | error error => exact .error (hf error (refuses_repetition args error ha))
  | ok found =>
    obtain ⟨body, maxAttempts, policy⟩ := found
    obtain ⟨sub, hsub, hrest⟩ := Except.ok_of_bind ha
    obtain ⟨times, -, hrest⟩ := Except.ok_of_bind hrest
    obtain ⟨backoff, -, hlast⟩ := Except.ok_of_bind hrest
    cases hlast
    exact obeys_remaining ⟨⟨"body", by decide, subPipeline?_of_ok hsub⟩, Or.inl rfl⟩ _ _ _ _ _

end Brick

/-- A control-flow brick asks for what is in its arguments, and fails only as a sub-pipeline did or
because it refuses its arguments. -/
theorem Control.obeys (control : Control) {fails : Error → Prop}
    (hf : ∀ error, IsRefusal control.id error → fails error) (args : Json)
    (access : Brick.Access) :
    ((control.brick : Brick σ).run args access).Obeys (control.Asks args) fails := by
  cases control with
  | ifElse => exact Brick.obeys_branch hf args
  | forEach => exact Brick.obeys_loop hf args
  | tryExcept => exact Brick.obeys_containment hf args
  | retry => exact Brick.obeys_repetition hf args

namespace Host

variable {host : Host σ} {info : RunInfo}

theorem isContext_leave (step : Step) (ctx : Context) (error : Error) :
    (leave info step ctx error).isContext = true := by
  have hw : (wrap step ctx error).isContext = true := by
    unfold wrap
    split
    · assumption
    · rfl
  unfold leave
  split
  · exact hw
  · cases h : wrap step ctx error with
    | context _ _ _ _ => rfl
    | _ =>
      rw [h] at hw
      cases hw

/-- A run fails with a context layer around its failure. -/
theorem isContext_of_error {depth : Nat} (call : Call σ) {error : Error}
    (h : (call.run (host.runPipeline info depth)).answer = some (.error error)) :
    error.isContext = true := by
  cases depth with
  | zero => cases h
  | succ depth =>
    obtain ⟨_, visit, -, -, he⟩ := host.scope_of_error info call h
    have ha := host.visitRun_answer info (host.runPipeline info depth) visit he
    split at ha
    · cases ha
      exact isContext_leave _ _ _
    · obtain ⟨_, hv⟩ := ha
      cases hv

/-- A sub-pipeline that a step asks for is asked for by its control-flow brick. -/
theorem asked_of_mem_calls (only : host.registry.OnlyControlCalls) {nested : Runner σ}
    {visit : Visit σ} {call : Call σ} (h : call ∈ host.calls info nested visit) :
    ∃ (control : Control) (args : Json), host.prepared info visit = .ready control.brick args ∧
      control.id = visit.step.id ∧ control.Asks args call.sub call.bindings := by
  unfold calls at h
  split at h
  · rename_i brick args hp
    obtain ⟨hb, -⟩ := host.ready_spec info.apiVersion visit.step visit.context visit.running hp
    rcases only visit.step.id brick hb with ⟨control, hid, rfl⟩ | free
    · have ho : (host.routine info visit control.brick args).Obeys (control.Asks args)
          fun _ => True := control.obeys (fun _ _ => trivial) args _
      have hasks := (ho.exec nested (fun _ _ _ _ _ _ _ => trivial) none visit.context
        visit.state).1
      exact ⟨control, args, hp, hid, hasks call h⟩
    · rw [Host.routine, Routine.calls_of_callFree (free args _)] at h
      cases h
  · cases h

/-- A failure that a step came to is one that kept it from running, one of a sub-pipeline, a refusal
of its control-flow brick, or raised by a brick that runs no pipelines. -/
theorem raised_cases (only : host.registry.OnlyControlCalls) {depth : Nat} {visit : Visit σ}
    {error : Error} (h : host.raised? info (host.runPipeline info depth) visit = some error) :
    (∃ args, host.prepared info visit = .failed args error) ∨ error.isContext = true ∨
      IsRefusal visit.step.id error ∨
      ∃ brick args, host.prepared info visit = .ready brick args ∧ brick.CallFree := by
  unfold raised? at h
  split at h
  · rename_i args failure hp
    cases h
    exact Or.inl ⟨args, hp⟩
  · cases h
  · rename_i brick args hp
    split at h
    · rename_i failure ha
      cases h
      refine Or.inr ?_
      obtain ⟨hb, -⟩ := host.ready_spec info.apiVersion visit.step visit.context visit.running hp
      rcases only visit.step.id brick hb with ⟨control, hid, rfl⟩ | free
      · have ho : (host.routine info visit control.brick args).Obeys (control.Asks args)
            fun error => error.isContext = true ∨ IsRefusal control.id error :=
          control.obeys (fun _ hr => Or.inr hr) args _
        have hfails := (ho.exec (host.runPipeline info depth)
          (fun steps ctx state answer hn failure he =>
            Or.inl (isContext_of_error (.root steps ctx state) (he ▸ hn)))
          (some (.brick visit.step.id visit.index)) visit.context visit.state).2 _ ha
        rw [hid] at hfails
        exact (hfails _ rfl).imp_right Or.inl
      · exact Or.inr (Or.inr ⟨brick, args, hp, free⟩)
    · cases h

/-- The scopes of a run: that of the call itself, and those that the steps of another scope ask for.
A scope comes with the depth that it is run to, and with the steps around it, outermost first, each
with what it asked for. -/
inductive Enters (host : Host σ) (info : RunInfo) (depth : Nat) (call : Call σ) :
    Nat → List (Visit σ × Call σ) → Call σ → Prop where
  | here : Enters host info depth call depth [] call
  | deeper {left : Nat} {path : List (Visit σ × Call σ)} {outer inner : Call σ} {visit : Visit σ}
    (entered : Enters host info depth call (left + 1) path outer)
    (visited : visit ∈ host.scope info (host.runPipeline info left) outer)
    (asked : inner ∈ host.calls info (host.runPipeline info left) visit) :
    Enters host info depth call left (path ++ [(visit, inner)]) inner

/-- The steps that the sub-pipelines of a scope reach, each with what led there. -/
def nestedVisits (host : Host σ) (info : RunInfo) (depth : Nat) (scope : Call σ) :
    List (Visit σ × Call σ × Visit σ) :=
  (host.scope info (host.runPipeline info (depth + 1)) scope).flatMap fun visit =>
    (host.calls info (host.runPipeline info (depth + 1)) visit).flatMap fun call =>
      (host.scope info (host.runPipeline info depth) call).map fun inner => (visit, call, inner)

/-- A step that a sub-pipeline reaches is one of a scope that the run enters. -/
theorem exists_enters_of_any {depth : Nat} {scope : Call σ}
    {check : Visit σ × Call σ × Visit σ → Bool}
    (h : (host.nestedVisits info depth scope).any check = true) :
    ∃ visit call inner, check (visit, call, inner) = true ∧
      host.Enters info (depth + 2) scope (depth + 1) [(visit, call)] call ∧
      inner ∈ host.scope info (host.runPipeline info depth) call := by
  obtain ⟨entry, hm, hc⟩ := List.any_eq_true.1 h
  obtain ⟨visit, hv, hm⟩ := List.mem_flatMap.1 hm
  obtain ⟨call, ha, hm⟩ := List.mem_flatMap.1 hm
  obtain ⟨inner, hi, rfl⟩ := List.mem_map.1 hm
  exact ⟨visit, call, inner, hc, .deeper .here hv ha, hi⟩

end Host
end BrickPipeline
