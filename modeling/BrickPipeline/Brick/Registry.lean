import BrickPipeline.Brick.Loop
import BrickPipeline.Brick.Branch
import BrickPipeline.Brick.Leaf
import BrickPipeline.Brick.Repetition
import BrickPipeline.Brick.Containment
import BrickPipeline.Expr.Traversal

/-!
The bricks that pipelines can name, and what can be said of a pipeline before it runs.
-/
namespace BrickPipeline

/-- Bricks by identifier. -/
structure Registry (σ : Type) where
  bricks : Entries (Brick σ)

namespace Registry

variable {σ : Type}

def empty : Registry σ := ⟨[]⟩

/-- Register a brick under its own identifier, in place of any brick there. -/
def register (registry : Registry σ) (brick : Brick σ) : Registry σ :=
  ⟨Entries.insert brick.id.text brick registry.bricks⟩

def registerAll (registry : Registry σ) (bricks : List (Brick σ)) : Registry σ :=
  bricks.foldl register registry

def standard : Registry σ :=
  empty.registerAll [Brick.ifElse, Brick.forEach, Brick.tryExcept, Brick.retry,
    Brick.identity, Brick.throw, Brick.log]

def get? (registry : Registry σ) (id : String) : Option (Brick σ) :=
  Entries.get? id registry.bricks

def has (registry : Registry σ) (id : String) : Bool := (registry.get? id).isSome

/-- The registered identifiers, in order. -/
def ids (registry : Registry σ) : List String := registry.bricks.keys

def isPureStep (registry : Registry σ) (step : Step) : Bool :=
  (registry.get? step.id.text).any (·.isPure)

/-- Whether a step may read the root: unknown bricks are taken to. -/
def isRootAwareStep (registry : Registry σ) (step : Step) : Bool :=
  (registry.get? step.id.text).all (·.isRootAware)

/-- Whether every step runs a known pure brick, steps of sub-pipelines included. -/
def isPure (registry : Registry σ) (steps : Pipeline) : Bool :=
  Pipeline.every registry.isPureStep steps

/-- Whether some step may read the root, steps of sub-pipelines included. -/
def isRootAware (registry : Registry σ) (steps : Pipeline) : Bool :=
  Pipeline.some registry.isRootAwareStep steps

theorem get?_register_self (registry : Registry σ) (brick : Brick σ) :
    (registry.register brick).get? brick.id.text = some brick :=
  Entries.get?_insert_self ..

theorem get?_register_of_ne (registry : Registry σ) (brick : Brick σ) {id : String}
    (h : id ≠ brick.id.text) : (registry.register brick).get? id = registry.get? id :=
  Entries.get?_insert_of_ne h ..

/-- What holds of the bricks of a registry and of a brick holds after registering it. -/
theorem forall_register {P : String → Brick σ → Prop} {registry : Registry σ} {brick : Brick σ}
    (hr : ∀ id found, registry.get? id = some found → P id found) (hb : P brick.id.text brick) :
    ∀ id found, (registry.register brick).get? id = some found → P id found := by
  intro id found h
  by_cases hid : id = brick.id.text
  · subst hid
    rw [get?_register_self] at h
    cases h
    exact hb
  · rw [get?_register_of_ne registry brick hid] at h
    exact hr id found h

/-- What holds of all built-in bricks under their own identifiers holds of the standard registry. -/
theorem forall_standard {P : String → Brick σ → Prop}
    (h : ∀ brick ∈ ([Brick.ifElse, Brick.forEach, Brick.tryExcept, Brick.retry, Brick.identity,
      Brick.throw, Brick.log] : List (Brick σ)), P brick.id.text brick) :
    ∀ id found, (standard : Registry σ).get? id = some found → P id found := by
  simp only [List.forall_mem_cons] at h
  obtain ⟨h1, h2, h3, h4, h5, h6, h7, -⟩ := h
  have h0 : ∀ id found, (empty : Registry σ).get? id = some found → P id found := nofun
  exact forall_register (forall_register (forall_register (forall_register (forall_register
    (forall_register (forall_register h0 h1) h2) h3) h4) h5) h6) h7

end Registry
end BrickPipeline
