import BrickPipeline.Brick.Basic

/-!
Computations that leave events behind, and how the requests of a routine are carried out as one.
A computation is a function of the state that the bricks of a host share, so two runs of it on
one state do the same.
-/
namespace BrickPipeline

/-- What a computation did: its events, the state it left, and its answer unless it exceeded the
depth. -/
structure Ran (σ α : Type) where
  events : List Event
  state : σ
  answer : Option α

/-- A computation over the state that the bricks of a host share. -/
def Exec (σ α : Type) : Type := σ → Ran σ α

namespace Exec

variable {σ α β : Type}

def done (answer : α) : Exec σ α := fun state => ⟨[], state, some answer⟩

/-- Continue with the answer of a computation, if it has one. -/
def bind (first : Exec σ α) (next : α → Exec σ β) : Exec σ β := fun state =>
  let ran := first state
  match ran.answer with
  | none => ⟨ran.events, ran.state, none⟩
  | some answer =>
    let rest := next answer ran.state
    ⟨ran.events ++ rest.events, rest.state, rest.answer⟩

instance : Monad (Exec σ) where
  pure := done
  bind := bind

def emit (event : Event) : Exec σ Unit := fun state => ⟨[event], state, some ()⟩

def emitAll (events : List Event) : Exec σ Unit := fun state => ⟨events, state, some ()⟩

def current : Exec σ σ := fun state => ⟨[], state, some state⟩

def tooDeep : Exec σ α := fun state => ⟨[], state, none⟩

def log (span : Option Log.Span) (entry : Log.Entry) : Exec σ Unit := emit (.log ⟨entry, span⟩)

theorem done_bind (answer : α) (next : α → Exec σ β) : (done answer).bind next = next answer := rfl

theorem bind_done (first : Exec σ α) : first.bind done = first := by
  funext state
  rcases h : first state with ⟨events, left, _ | answer⟩ <;> simp [bind, done, h]

theorem bind_assoc {γ : Type} (first : Exec σ α) (f : α → Exec σ β) (g : β → Exec σ γ) :
    (first.bind f).bind g = first.bind fun answer => (f answer).bind g := by
  funext state
  rcases h : first state with ⟨events, left, _ | answer⟩
  · simp [bind, h]
  · rcases hf : f answer left with ⟨more, last, _ | next⟩ <;> simp [bind, h, hf]

instance : LawfulMonad (Exec σ) :=
  LawfulMonad.mk' _ bind_done (fun _ _ => rfl) bind_assoc

theorem bind_eq (first : Exec σ α) (next : α → Exec σ β) : first >>= next = first.bind next := rfl

theorem pure_eq (answer : α) : (pure answer : Exec σ α) = done answer := rfl

theorem done_apply (answer : α) (state : σ) : done answer state = ⟨[], state, some answer⟩ := rfl

theorem emit_bind_apply (event : Event) (next : Unit → Exec σ β) (state : σ) :
    (emit event).bind next state =
      ⟨event :: (next () state).events, (next () state).state, (next () state).answer⟩ := rfl

theorem log_bind_apply (span : Option Log.Span) (entry : Log.Entry) (next : Unit → Exec σ β)
    (state : σ) :
    (log span entry).bind next state =
      ⟨.log ⟨entry, span⟩ :: (next () state).events, (next () state).state,
        (next () state).answer⟩ := rfl

/-- Going on after a computation that has answered. -/
theorem bind_apply_of_answer {first : Exec σ α} {state : σ} {answer : α}
    (h : (first state).answer = some answer) (next : α → Exec σ β) :
    first.bind next state =
      ⟨(first state).events ++ (next answer (first state).state).events,
        (next answer (first state).state).state, (next answer (first state).state).answer⟩ := by
  simp [bind, h]

/-- Nothing goes on after a computation without an answer. -/
theorem bind_apply_of_none {first : Exec σ α} {state : σ} (h : (first state).answer = none)
    (next : α → Exec σ β) :
    first.bind next state = ⟨(first state).events, (first state).state, none⟩ := by
  simp [bind, h]

end Exec

namespace Routine

variable {σ α : Type}

/-- Carry out the requests of a routine. `nested` runs pipelines; a sub-pipeline that is not
closed over bindings runs in the given context. -/
def exec (nested : Pipeline → Context → Exec σ (Except Error Json)) (span : Option Log.Span)
    (ctx : Context) : Routine σ α → Exec σ α
  | done answer => Exec.done answer
  | log entry next => (Exec.log span entry).bind fun _ => exec nested span ctx next
  | wait duration next => (Exec.emit (.wait duration)).bind fun _ => exec nested span ctx next
  | call sub bindings next =>
    (nested sub.steps ((sub.environment.getD ctx).bindAll bindings)).bind fun answer =>
      exec nested span ctx (next answer)
  | get next => fun state => exec nested span ctx (next state) state
  | set state next => fun _ => exec nested span ctx next state

/-- Carrying out a routine and then another is carrying out the two in sequence. -/
theorem exec_bind {β : Type} (nested : Pipeline → Context → Exec σ (Except Error Json))
    (span : Option Log.Span) (ctx : Context) (routine : Routine σ α) (next : α → Routine σ β) :
    exec nested span ctx (routine.bind next) =
      (exec nested span ctx routine).bind fun answer => exec nested span ctx (next answer) := by
  induction routine with
  | done _ => rfl
  | log _ _ ih => simp [Routine.bind, exec, ih, Exec.bind_assoc]
  | wait _ _ ih => simp [Routine.bind, exec, ih, Exec.bind_assoc]
  | call _ _ _ ih => simp [Routine.bind, exec, ih, Exec.bind_assoc]
  | get _ ih =>
    funext state
    exact congrFun (ih state) state
  | set left _ ih =>
    funext _
    exact congrFun ih left

end Routine

end BrickPipeline
