import BrickPipeline.Proofs.Lockstep

/-!
Loops. A loop over two lists of elements, one behind the other, is a loop over the first and then,
unless that has failed, a loop over the second. Every element has a scope of its own, in which
nothing is bound but the element.
-/
namespace BrickPipeline

open Arguments

variable {σ : Type}

namespace Brick.Loop

/-- The arguments of a loop with other elements. -/
def withElements (fields : Entries Json) (elements : List Json) : Json :=
  .object (Entries.insert "elements" (.array elements) fields)

theorem get?_withElements {name : String} (h : name ≠ "elements") (fields : Entries Json)
    (elements : List Json) :
    (withElements fields elements).get? name = (Json.object fields).get? name :=
  Entries.get?_insert_of_ne h (Json.array elements) fields

section Arguments

variable (fields : Entries Json) (elements : List Json)

theorem subPipeline_withElements :
    subPipeline id (withElements fields elements) "body" =
      subPipeline id (.object fields) "body" := by
  unfold subPipeline subPipeline?
  rw [get?_withElements (by decide)]

theorem keyArgument_withElements :
    keyArgument id (withElements fields elements) "elementKey" "element" =
      keyArgument id (.object fields) "elementKey" "element" := by
  unfold keyArgument
  rw [get?_withElements (by decide)]

theorem arguments_withElements :
    arguments (withElements fields elements) = do
      let body ← subPipeline id (.object fields) "body"
      let key ← keyArgument id (.object fields) "elementKey" "element"
      return (body, bindingKey key, elements) := by
  have helements : (withElements fields elements).get? "elements" = some (.array elements) :=
    Entries.get?_insert_self "elements" (Json.array elements) fields
  unfold arguments
  rw [subPipeline_withElements, keyArgument_withElements, helements]

end Arguments

/-- Whether a loop can run at all does not depend on its elements. -/
theorem run_withElements (fields : Entries Json) :
    (∃ error, ∀ elements,
        (run (withElements fields elements) : Routine σ _) = .done (.error error)) ∨
      ∃ body key, ∀ elements,
        (run (withElements fields elements) : Routine σ _) = each body key elements 0 .null := by
  unfold run
  simp only [arguments_withElements]
  cases subPipeline id (.object fields) "body" with
  | error error => exact .inl ⟨error, fun _ => rfl⟩
  | ok body =>
    cases keyArgument id (.object fields) "elementKey" "element" with
    | error error => exact .inl ⟨error, fun _ => rfl⟩
    | ok key => exact .inr ⟨body, bindingKey key, fun _ => rfl⟩

theorem run_withElements_of_reads {fields : Entries Json} {body : SubPipeline} {elementKey : String}
    (hbody : subPipeline id (.object fields) "body" = .ok body)
    (hkey : keyArgument id (.object fields) "elementKey" "element" = .ok elementKey)
    (elements : List Json) :
    (run (withElements fields elements) : Routine σ _) =
      each body (bindingKey elementKey) elements 0 .null := by
  unfold run
  rw [arguments_withElements, hbody, hkey]
  rfl

section Each

variable (body : SubPipeline) (key : String)

theorem each_cons (element : Json) (rest : List Json) (index : Nat) (last : Json) :
    (each body key (element :: rest) index last : Routine σ _) =
      .log (.plain .debug s!"iteration {index}") (.call body [(key, element)] fun
        | .ok value => each body key rest (index + 1) value
        | .error error => .done (.error error)) := rfl

/-- A loop goes on with further elements as a loop that starts with them would. -/
theorem each_append (xs ys : List Json) (index : Nat) (last : Json) :
    (each body key (xs ++ ys) index last : Routine σ _) =
      (each body key xs index last).bind fun
        | .ok value => each body key ys (index + xs.length) value
        | .error error => .done (.error error) := by
  induction xs generalizing index last with
  | nil => rfl
  | cons x rest ih =>
    have hlength : index + (x :: rest).length = index + 1 + rest.length := by
      rw [List.length_cons]
      omega
    rw [List.cons_append, each_cons, each_cons, hlength]
    simp only [Routine.bind]
    congr 2
    funext answer
    cases answer with
    | error error => rfl
    | ok value => exact ih (index + 1) value

/-- How the elements are counted shows in the log only. -/
theorem sameRequests_each (elements : List Json) (index count : Nat) (last : Json) :
    (each body key elements index last : Routine σ _).SameRequests
      (each body key elements count last) := by
  induction elements generalizing index count last with
  | nil => exact .done (Except.ok last)
  | cons element rest ih =>
    apply Routine.SameRequests.log
    apply Routine.SameRequests.call
    intro answer
    cases answer with
    | error error => exact .done (Except.error error)
    | ok value => exact ih (index + 1) (count + 1) value

variable (nested : Runner σ) (span : Option Log.Span) (ctx : Context)

/-- Every element of a loop that has been reached has a scope with nothing but itself bound. -/
theorem calls_each (elements : List Json) (index : Nat) (last : Json) (state : σ) {k : Nat}
    {call : Call σ}
    (h : ((each body key elements index last).calls nested ctx state)[k]? = some call) :
    call.sub = body ∧ ∃ element, elements[k]? = some element ∧
      call.context = (body.environment.getD ctx).bind key element := by
  induction elements generalizing index last state k with
  | nil => simp [each, Routine.calls] at h
  | cons element rest ih =>
    simp only [each_cons, Routine.calls] at h
    cases k with
    | zero =>
      obtain rfl : _ = call := by simpa using h
      exact ⟨rfl, element, rfl, rfl⟩
    | succ k =>
      rw [List.getElem?_cons_succ] at h
      rcases ha : (Call.run nested ⟨body, ctx, [(key, element)], state⟩).answer
        with _ | error | value
      · simp [ha] at h
      · simp [ha, Routine.calls] at h
      · simp only [ha] at h
        exact ih (index + 1) value _ h

/-- A loop that has not failed has run its body for each of its elements. -/
theorem length_calls_each (elements : List Json) (index : Nat) (last : Json) (state : σ)
    {value : Json}
    (h : ((each body key elements index last).exec nested span ctx state).answer =
      some (.ok value)) :
    ((each body key elements index last).calls nested ctx state).length = elements.length := by
  induction elements generalizing index last state with
  | nil => rfl
  | cons element rest ih =>
    rw [each_cons, Routine.exec, Exec.log_bind_apply, Routine.exec_call] at h
    simp only [each_cons, Routine.calls, List.length_cons]
    rcases ha : (Call.run nested ⟨body, ctx, [(key, element)], state⟩).answer
      with _ | error | next
    · simp [ha] at h
    · simp [ha, Routine.exec, Exec.done] at h
    · simp only [ha] at h ⊢
      rw [ih (index + 1) next _ h]

/-- A loop in the middle of its elements goes on as a loop that starts with those left. -/
theorem each_resumed (elements : List Json) (index : Nat) (value : Json) (state : σ) :
    let resumed := (each body key elements index value).exec nested span ctx state
    let started := (each body key elements 0 .null).exec nested span ctx state
    resumed.answer = (if elements = [] then some (.ok value) else started.answer) ∧
      resumed.state = started.state ∧
      (each body key elements index value).calls nested ctx state =
        (each body key elements 0 .null).calls nested ctx state := by
  cases elements with
  | nil => exact ⟨rfl, rfl, rfl⟩
  | cons element rest =>
    -- With an element to run for, the value before it does not matter.
    have hsame : (each body key (element :: rest) index value : Routine σ _).SameRequests
        (each body key (element :: rest) 0 .null) :=
      sameRequests_each body key (element :: rest) index 0 value
    have hlog : ∀ line, Event.isReport (.log line) = false := fun _ => rfl
    have hrun := hsame.exec nested ctx hlog span span state
    exact ⟨hrun.answer_eq, hrun.state, hsame.calls nested ctx state⟩

section Append

variable (xs ys : List Json) (index : Nat) (last : Json) (state : σ)

/-- Without a value from the first elements, no further element is reached. -/
theorem each_append_of_stopped
    (h : ∀ value, ((each body key xs index last).exec nested span ctx state).answer ≠
      some (.ok value)) :
    (each body key (xs ++ ys) index last).exec nested span ctx state =
        (each body key xs index last).exec nested span ctx state ∧
      (each body key (xs ++ ys) index last).calls nested ctx state =
        (each body key xs index last).calls nested ctx state := by
  rw [each_append, Routine.exec_bind, Routine.calls_bind nested span]
  rcases ha : ((each body key xs index last).exec nested span ctx state).answer
    with _ | error | value
  · refine ⟨?_, List.append_nil _⟩
    rw [Exec.bind_apply_of_none ha, ← ha]
  · refine ⟨?_, List.append_nil _⟩
    rw [Exec.bind_apply_of_answer ha]
    simp [Routine.exec, Exec.done, ← ha]
  · exact absurd ha (h value)

/-- With a value from the first elements, the loop runs for the others. -/
theorem each_append_of_ok {value : Json}
    (h : ((each body key xs index last).exec nested span ctx state).answer = some (.ok value)) :
    let first := (each body key xs index last).exec nested span ctx state
    let rest := (each body key ys 0 .null).exec nested span ctx first.state
    let whole := (each body key (xs ++ ys) index last).exec nested span ctx state
    whole.answer = (if ys = [] then first.answer else rest.answer) ∧ whole.state = rest.state ∧
      (each body key (xs ++ ys) index last).calls nested ctx state =
        (each body key xs index last).calls nested ctx state ++
          (each body key ys 0 .null).calls nested ctx first.state := by
  intro first rest whole
  obtain ⟨hanswer, hstate, hcalls⟩ :=
    each_resumed body key nested span ctx ys (index + xs.length) value first.state
  have hwhole : whole.answer = ((each body key ys (index + xs.length) value).exec nested span ctx
        first.state).answer ∧
      whole.state = ((each body key ys (index + xs.length) value).exec nested span ctx
        first.state).state := by
    unfold whole
    rw [each_append, Routine.exec_bind, Exec.bind_apply_of_answer h]
    exact ⟨rfl, rfl⟩
  refine ⟨?_, hwhole.2.trans hstate, ?_⟩
  · rw [show first.answer = some (.ok value) from h]
    exact hwhole.1.trans hanswer
  · rw [each_append, Routine.calls_bind nested span, h]
    exact congrArg _ hcalls

end Append
end Each
end Brick.Loop

namespace Host

open Brick

variable (host : Host σ) (info : RunInfo) (nested : Runner σ)

/-- The run of a loop over elements, by the brick of a step that was reached. -/
def loop (visit : Visit σ) (fields : Entries Json) (elements : List Json) :
    Ran σ (Except Error Json) :=
  host.brickRun info nested visit forEach (Loop.withElements fields elements)

/-- The sub-pipelines that a loop asks to run. -/
def loopCalls (visit : Visit σ) (fields : Entries Json) (elements : List Json) : List (Call σ) :=
  (host.routine info visit forEach (Loop.withElements fields elements)).calls nested visit.context
    visit.state

variable (visit : Visit σ) (fields : Entries Json)

theorem reports_loop (elements : List Json) :
    Event.reports (host.loop info nested visit fields elements).events =
      (host.loopCalls info nested visit fields elements).flatMap fun call =>
        Event.reports (call.run nested).events :=
  host.reports_brickRun info nested visit forEach (Loop.withElements fields elements)

/-- A loop that cannot run answers with one failure, and any other runs its body. -/
theorem loop_cases :
    (∃ error, ∀ visit elements, host.loop info nested visit fields elements =
        ⟨[], visit.state, some (.error error)⟩ ∧
      host.loopCalls info nested visit fields elements = []) ∨
    ∃ body key, ∀ visit elements, host.loop info nested visit fields elements =
        (Loop.each body key elements 0 .null).exec nested
          (some (.brick visit.step.id visit.index)) visit.context visit.state ∧
      host.loopCalls info nested visit fields elements =
        (Loop.each body key elements 0 .null).calls nested visit.context visit.state := by
  rcases Loop.run_withElements (σ := σ) fields with ⟨error, hrun⟩ | ⟨body, key, hrun⟩
  · refine .inl ⟨error, fun visit elements => ?_⟩
    have hroutine : host.routine info visit forEach (Loop.withElements fields elements) =
        .done (.error error) := hrun elements
    unfold loop loopCalls brickRun
    rw [hroutine]
    exact ⟨rfl, rfl⟩
  · refine .inr ⟨body, key, fun visit elements => ?_⟩
    have hroutine : host.routine info visit forEach (Loop.withElements fields elements) =
        Loop.each body key elements 0 .null := hrun elements
    unfold loop loopCalls brickRun
    rw [hroutine]
    exact ⟨rfl, rfl⟩

/-- A loop over no elements at all has nothing to answer with. -/
theorem loop_nil {body : SubPipeline} {elementKey : String}
    (hbody : subPipeline Loop.id (.object fields) "body" = .ok body)
    (hkey : keyArgument Loop.id (.object fields) "elementKey" "element" = .ok elementKey) :
    (host.loop info nested visit fields []).answer = some (.ok .null) := by
  have hroutine : host.routine info visit forEach (Loop.withElements fields []) =
      .done (.ok .null) :=
    Loop.run_withElements_of_reads hbody hkey []
  unfold loop brickRun
  rw [hroutine]
  rfl

/-- The scope of an element is the context of the loop, or what its body has captured, with the
element bound. -/
theorem loopCalls_getElem? {body : SubPipeline} {elementKey : String}
    (hbody : subPipeline Loop.id (.object fields) "body" = .ok body)
    (hkey : keyArgument Loop.id (.object fields) "elementKey" "element" = .ok elementKey)
    {elements : List Json} {k : Nat} {call : Call σ}
    (h : (host.loopCalls info nested visit fields elements)[k]? = some call) :
    call.sub = body ∧ ∃ element, elements[k]? = some element ∧
      call.context =
        (body.environment.getD visit.context).bind (bindingKey elementKey) element := by
  have hroutine : host.routine info visit forEach (Loop.withElements fields elements) =
      Loop.each body (bindingKey elementKey) elements 0 .null :=
    Loop.run_withElements_of_reads hbody hkey elements
  unfold loopCalls at h
  rw [hroutine] at h
  exact Loop.calls_each body (bindingKey elementKey) nested visit.context elements 0 .null _ h

/-- A loop that stops among its first elements reaches no other. -/
theorem loop_append_of_stopped {xs : List Json}
    (h : ∀ value, (host.loop info nested visit fields xs).answer ≠ some (.ok value))
    (ys : List Json) :
    host.loop info nested visit fields (xs ++ ys) = host.loop info nested visit fields xs ∧
      host.loopCalls info nested visit fields (xs ++ ys) =
        host.loopCalls info nested visit fields xs := by
  rcases host.loop_cases info nested fields with ⟨error, hrun⟩ | ⟨body, key, hrun⟩
  · obtain ⟨hfirst, hfirstCalls⟩ := hrun visit xs
    obtain ⟨hwhole, hwholeCalls⟩ := hrun visit (xs ++ ys)
    exact ⟨hwhole.trans hfirst.symm, hwholeCalls.trans hfirstCalls.symm⟩
  · obtain ⟨hfirst, hfirstCalls⟩ := hrun visit xs
    obtain ⟨hwhole, hwholeCalls⟩ := hrun visit (xs ++ ys)
    rw [hfirst] at h
    rw [hwhole, hfirst, hwholeCalls, hfirstCalls]
    exact Loop.each_append_of_stopped body key nested _ visit.context xs ys 0 .null visit.state h

/-- A loop that has run for its first elements goes on as a loop over the others. -/
theorem loop_append_of_ok {xs : List Json} {value : Json}
    (h : (host.loop info nested visit fields xs).answer = some (.ok value)) (ys : List Json) :
    let first := host.loop info nested visit fields xs
    let rest := host.loop info nested { visit with state := first.state } fields ys
    let whole := host.loop info nested visit fields (xs ++ ys)
    whole.answer = (if ys = [] then first.answer else rest.answer) ∧ whole.state = rest.state ∧
      host.loopCalls info nested visit fields (xs ++ ys) =
        host.loopCalls info nested visit fields xs ++
          host.loopCalls info nested { visit with state := first.state } fields ys ∧
      (host.loopCalls info nested visit fields xs).length = xs.length := by
  intro first rest whole
  rcases host.loop_cases info nested fields with ⟨error, hrun⟩ | ⟨body, key, hrun⟩
  · rw [(hrun visit xs).1] at h
    cases h
  · obtain ⟨hfirst, hfirstCalls⟩ := hrun visit xs
    obtain ⟨hrest, hrestCalls⟩ := hrun { visit with state := first.state } ys
    obtain ⟨hwhole, hwholeCalls⟩ := hrun visit (xs ++ ys)
    have hvalue := h
    rw [hfirst] at hvalue
    have hlength := Loop.length_calls_each body key nested _ visit.context xs 0 .null _ hvalue
    obtain ⟨hanswer, hstate, hcalls⟩ :=
      Loop.each_append_of_ok body key nested _ visit.context xs ys 0 .null _ hvalue
    rw [← hfirst] at hanswer hstate hcalls
    rw [← hwhole, ← hrest] at hanswer hstate
    rw [← hwholeCalls, ← hfirstCalls, ← hrestCalls] at hcalls
    rw [← hfirstCalls] at hlength
    exact ⟨hanswer, hstate, hcalls, hlength⟩

end Host

/-- A loop over elements in two parts. If the run for the first part does not come to a value, it is
the whole run, and nothing runs for the second part. Otherwise the whole run reports what the loop
over the first part reports and then what the loop over the second reports that starts with the
state which the first has left (bricks that share no state have only one), and the last of the two
that has elements answers. A loop without elements answers null. The body runs for one element after
the other, each time in the context of the loop, or in what the body has captured, with nothing but
the element bound. -/
theorem Host.loop_append (host : Host σ) (info : RunInfo) (depth : Nat) (visit : Visit σ)
    (fields : Entries Json) (xs ys : List Json) :
    let nested := host.runPipeline info depth
    let first := host.loop info nested visit fields xs
    let after : Visit σ := { visit with state := first.state }
    let rest := host.loop info nested after fields ys
    let whole := host.loop info nested visit fields (xs ++ ys)
    ((∀ value, first.answer ≠ some (.ok value)) →
        whole = first ∧ host.loopCalls info nested visit fields (xs ++ ys) =
          host.loopCalls info nested visit fields xs) ∧
      (∀ value, first.answer = some (.ok value) →
        whole.answer = (if ys = [] then first.answer else rest.answer) ∧
          whole.state = rest.state ∧
          Event.records whole.events = Event.records first.events ++ Event.records rest.events ∧
          Event.alerts whole.events = Event.alerts first.events ++ Event.alerts rest.events ∧
          host.loopCalls info nested visit fields (xs ++ ys) =
            host.loopCalls info nested visit fields xs ++
              host.loopCalls info nested after fields ys ∧
          (host.loopCalls info nested visit fields xs).length = xs.length) ∧
      ∀ body elementKey, subPipeline Brick.Loop.id (.object fields) "body" = .ok body →
        keyArgument Brick.Loop.id (.object fields) "elementKey" "element" = .ok elementKey →
          (host.loop info nested visit fields []).answer = some (.ok .null) ∧
            ∀ (k : Nat) (call : Call σ),
              (host.loopCalls info nested visit fields xs)[k]? = some call →
              call.sub = body ∧ ∃ element, xs[k]? = some element ∧
                call.context =
                  (body.environment.getD visit.context).bind (bindingKey elementKey) element := by
  intro nested first after rest whole
  refine ⟨fun stopped => ?_, fun value hvalue => ?_, fun body elementKey hbody hkey => ?_⟩
  · exact host.loop_append_of_stopped info nested visit fields stopped ys
  · obtain ⟨hanswer, hstate, hcalls, hlength⟩ :=
      host.loop_append_of_ok info nested visit fields hvalue ys
    have hreports : Event.reports whole.events =
        Event.reports first.events ++ Event.reports rest.events := by
      rw [host.reports_loop, host.reports_loop, host.reports_loop, hcalls, List.flatMap_append]
    have hrecords := congrArg Event.records hreports
    have halerts := congrArg Event.alerts hreports
    simp only [Event.records_reports, Event.records_append] at hrecords
    simp only [Event.alerts_reports, Event.alerts_append] at halerts
    exact ⟨hanswer, hstate, hrecords, halerts, hcalls, hlength⟩
  · refine ⟨host.loop_nil info nested visit fields hbody hkey, fun k call h => ?_⟩
    exact host.loopCalls_getElem? info nested visit fields hbody hkey h

namespace Sample

def loopStep (body : Pipeline) : Step :=
  ((Step.new Brick.Loop.id).withArg "body" (.ofSteps body)).withArg "elementKey" (.str "item")

def loopFields (body : Pipeline) : Entries Json := Expr.entriesToJson (loopStep body).config

def looped (body : Pipeline) (elements : List Json) : Ran Unit (Except Error Json) :=
  host.loop info (host.runPipeline info 1) ⟨loopStep body, 0, .empty, .null, ()⟩ (loopFields body)
    elements

end Sample

theorem Host.loop_append_sample :
    let nested := Sample.host.runPipeline Sample.info 1
    let visit : Visit Unit := ⟨Sample.loopStep (Sample.telling "@item"), 0, .empty, .null, ()⟩
    let fields := Sample.loopFields (Sample.telling "@item")
    Sample.looped [Sample.throwing "stop"] [.string "a", .string "b"] =
        Sample.looped [Sample.throwing "stop"] [.string "a"] ∧
      (Sample.looped (Sample.telling "@item") [.string "a", .string "b"]).answer =
        (Sample.looped (Sample.telling "@item") [.string "b"]).answer ∧
      (Sample.host.loop Sample.info nested visit fields []).answer = some (.ok .null) ∧
      ∃ call,
        (Sample.host.loopCalls Sample.info nested visit fields [.string "a"])[0]? = some call ∧
          call.context = Context.empty.bind "@item" (.string "a") := by
  intro nested visit fields
  have fails : Sample.fails (Sample.looped [Sample.throwing "stop"] [.string "a"]) = true := by
    decide +kernel
  have succeeds : Sample.seen? (Sample.looped (Sample.telling "@item") [.string "a"]) =
      some "a" := by
    decide +kernel
  obtain ⟨error, herror⟩ := Sample.exists_error_of_fails fails
  obtain ⟨value, hvalue⟩ := Sample.exists_value_of_seen? succeeds
  have hbody : subPipeline Brick.Loop.id (.object fields) "body" =
      .ok ⟨Sample.telling "@item", none⟩ := rfl
  have hkey : keyArgument Brick.Loop.id (.object fields) "elementKey" "element" =
      .ok "item" := rfl
  obtain ⟨stopped, -, -⟩ := Sample.host.loop_append Sample.info 1
    ⟨Sample.loopStep [Sample.throwing "stop"], 0, .empty, .null, ()⟩
    (Sample.loopFields [Sample.throwing "stop"]) [.string "a"] [.string "b"]
  obtain ⟨-, goesOn, scopes⟩ :=
    Sample.host.loop_append Sample.info 1 visit fields [.string "a"] [.string "b"]
  obtain ⟨hstopped, -⟩ := stopped fun value h => by cases h.symm.trans herror
  obtain ⟨hanswer, -, -, -, -, hlength⟩ := goesOn value hvalue
  obtain ⟨hnull, hscope⟩ := scopes _ _ hbody hkey
  obtain ⟨call, hcall⟩ : ∃ call,
      (Sample.host.loopCalls Sample.info nested visit fields [.string "a"])[0]? = some call :=
    ⟨_, List.getElem?_eq_getElem (by rw [hlength]; decide)⟩
  obtain ⟨-, element, helement, hcontext⟩ := hscope 0 call hcall
  obtain rfl : Json.string "a" = element := by simpa using helement
  exact ⟨hstopped, hanswer, hnull, call, hcall, hcontext⟩

end BrickPipeline
