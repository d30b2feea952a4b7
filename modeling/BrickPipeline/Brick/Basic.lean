import BrickPipeline.Brick.Routine
import BrickPipeline.Document.Basic

/-!
Bricks: what they are called, what they accept, and the routine that they run for given
arguments.
-/
namespace BrickPipeline

/-- What a running brick may use besides its arguments. -/
structure Brick.Access where
  /-- The context of the step. -/
  context : Context
  /-- The root; the document for a brick that is not root-aware. -/
  root : Root
  brickId : BrickId
  renderers : Renderers
  info : RunInfo

namespace Brick.Access

/-- Close a sub-pipeline over the context of the step. -/
def close (access : Brick.Access) (sub : SubPipeline) : SubPipeline :=
  ⟨sub.steps, some access.context⟩

/-- Render an argument that was deferred, with bindings added to the context of the step. -/
def renderLate (access : Brick.Access) (argument : Json)
    (bindings : List (String × Json)) : Except Error Json :=
  Render.deferred access.renderers (access.context.bindAll bindings) argument

end Brick.Access

/-- A brick: what it is called, what it accepts and what it does. -/
structure Brick (σ : Type) where
  id : BrickId
  inputSchema : Json
  /-- Whether running it has no side effects. -/
  isPure : Bool
  /-- Whether it reads the root; other bricks always get the document. -/
  isRootAware : Bool
  run : Json → Brick.Access → Routine σ (Except Error Json)

def anyObject : Json := .object [("type", .string "object")]

end BrickPipeline
