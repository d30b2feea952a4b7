import BrickPipeline.Brick.Arguments

/-!
The conditional brick: one of two branches runs, the other is not even read.
-/
namespace BrickPipeline.Brick

open Arguments

variable {σ : Type}

namespace Branch

def id : BrickId := ⟨"@brick/if-else", by decide⟩

/-- The branch that a condition selects, if there is one. -/
def select (args : Json) (condition : Bool) : Except Error (Option SubPipeline) :=
  if condition then some <$> subPipeline id args "if" else subPipeline? id args "else"

/-- Run the selected branch; without one the answer is null. -/
def run (args : Json) : Routine σ (Except Error Json) :=
  let condition := (args.get? "condition").any Json.isTruthy
  .log (.plain .debug s!"condition evaluated to {condition}") <|
    match select args condition with
    | .error error => .done (.error error)
    | .ok none => .done (.ok .null)
    | .ok (some sub) => .call sub [] .done

end Branch

/-- Runs `if` when `condition` is truthy, else the optional `else`. -/
def ifElse : Brick σ where
  id := Branch.id
  inputSchema := Arguments.schema
    [("condition", .object []), ("if", pipelineSchema), ("else", pipelineSchema)] ["if"]
  isPure := false
  isRootAware := true
  run := fun args _ => Branch.run args

end BrickPipeline.Brick
