import BrickPipeline.Expr.Basic
import BrickPipeline.Run.Event

/-!
What a brick does, as a tree of the requests that it makes with its answer at the leaves. A
routine that makes no `call` request cannot run a pipeline, and one that makes no state request
does not touch the state `σ` that the bricks of a host share.
-/
namespace BrickPipeline

/-- The requests of a brick, ending in an answer. -/
inductive Routine (σ α : Type) where
  | done (answer : α)
  | log (entry : Log.Entry) (next : Routine σ α)
  | wait (duration : Duration) (next : Routine σ α)
  /-- Run a sub-pipeline with bindings added to its context. -/
  | call (sub : SubPipeline) (bindings : List (String × Json))
    (next : Except Error Json → Routine σ α)
  /-- Look at the host's state. -/
  | get (next : σ → Routine σ α)
  | set (state : σ) (next : Routine σ α)

namespace Routine

variable {σ α β : Type}

def bind : Routine σ α → (α → Routine σ β) → Routine σ β
  | done answer, next => next answer
  | log entry rest, next => log entry (bind rest next)
  | wait duration rest, next => wait duration (bind rest next)
  | call sub bindings rest, next => call sub bindings fun answer => bind (rest answer) next
  | get rest, next => get fun state => bind (rest state) next
  | set state rest, next => set state (bind rest next)

instance : Monad (Routine σ) where
  pure := done
  bind := bind

/-- Whether the routine never asks to run a pipeline. -/
def CallFree : Routine σ α → Prop
  | done _ => True
  | log _ rest => CallFree rest
  | wait _ rest => CallFree rest
  | call .. => False
  | get rest => ∀ state, CallFree (rest state)
  | set _ rest => CallFree rest

@[simp] theorem bind_done (routine : Routine σ α) : bind routine done = routine := by
  induction routine with
  | done _ => rfl
  | log _ _ ih => simp [bind, ih]
  | wait _ _ ih => simp [bind, ih]
  | call _ _ _ ih => simp [bind, ih]
  | get _ ih => simp [bind, ih]
  | set _ _ ih => simp [bind, ih]

theorem bind_assoc {γ : Type} (routine : Routine σ α) (f : α → Routine σ β) (g : β → Routine σ γ) :
    (routine.bind f).bind g = routine.bind fun answer => (f answer).bind g := by
  induction routine with
  | done _ => rfl
  | log _ _ ih => simp [bind, ih]
  | wait _ _ ih => simp [bind, ih]
  | call _ _ _ ih => simp [bind, ih]
  | get _ ih => simp [bind, ih]
  | set _ _ ih => simp [bind, ih]

instance : LawfulMonad (Routine σ) :=
  LawfulMonad.mk' _ bind_done (fun _ _ => rfl) bind_assoc

end Routine

end BrickPipeline
