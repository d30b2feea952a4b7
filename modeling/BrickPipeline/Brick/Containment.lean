import BrickPipeline.Brick.Arguments

/-!
The containment brick: a failure of one branch is handed to the other as data.
-/
namespace BrickPipeline.Brick

open Arguments

variable {σ : Type}

namespace Containment

def id : BrickId := ⟨"@brick/try-except", by decide⟩

/-- The arguments: both branches and the binding key of the failure. -/
def arguments (args : Json) : Except Error (SubPipeline × Option SubPipeline × String) := do
  let attempt ← subPipeline id args "try"
  let handler ← subPipeline? id args "except"
  let key ← keyArgument id args "errorKey" "error"
  return (attempt, handler, bindingKey key)

/-- Handle a failure: run the handler with the failure bound, or answer null. -/
def handle (handler : Option SubPipeline) (key : String) (error : Error) :
    Routine σ (Except Error Json) :=
  .log (.plain .info s!"caught {error.cause.name}: {error.message}") <|
    match handler with
    | none => .done (.ok .null)
    | some sub => .call sub [(key, error.toJson)] .done

/-- Run the attempt, and handle its failure. -/
def run (args : Json) : Routine σ (Except Error Json) :=
  match arguments args with
  | .error error => .done (.error error)
  | .ok (attempt, handler, key) =>
    .call attempt [] fun
      | .ok value => .done (.ok value)
      | .error error => handle handler key error

end Containment

/-- Runs `try`, and on failure the optional `except` with the failure bound under `errorKey`. -/
def tryExcept : Brick σ where
  id := Containment.id
  inputSchema := Arguments.schema
    [("try", pipelineSchema), ("except", pipelineSchema), ("errorKey", stringSchema)] ["try"]
  isPure := false
  isRootAware := true
  run := fun args _ => Containment.run args

end BrickPipeline.Brick
