import BrickPipeline.Brick.Arguments

/-!
The loop brick: its body runs once per element, in order, until one run fails.
-/
namespace BrickPipeline.Brick

open Arguments

variable {σ : Type}

namespace Loop

def id : BrickId := ⟨"@brick/for-each", by decide⟩

/-- Run the body for the remaining elements; `index` counts those before, and `last` is the value
of the run before. -/
def each (body : SubPipeline) (key : String) : List Json → Nat → Json →
    Routine σ (Except Error Json)
  | [], _, last => .done (.ok last)
  | element :: rest, index, _ =>
    .log (.plain .debug s!"iteration {index}") <|
      .call body [(key, element)] fun
        | .ok value => each body key rest (index + 1) value
        | .error error => .done (.error error)

/-- The body, the binding key of the elements and the elements. -/
def arguments (args : Json) : Except Error (SubPipeline × String × List Json) := do
  let body ← subPipeline id args "body"
  let key ← keyArgument id args "elementKey" "element"
  match args.get? "elements" with
  | some (.array elements) => return (body, bindingKey key, elements)
  | _ => .error (.invalidArgument id "elements" "expected an array")

def run (args : Json) : Routine σ (Except Error Json) :=
  match arguments args with
  | .error error => .done (.error error)
  | .ok (body, key, elements) => each body key elements 0 .null

end Loop

/-- Runs `body` for each of `elements`, bound under `elementKey`; the answer is the last value. -/
def forEach : Brick σ where
  id := Loop.id
  inputSchema := Arguments.schema
    [("elements", .object [("type", .string "array")]), ("elementKey", stringSchema),
      ("body", pipelineSchema)] ["elements", "body"]
  isPure := false
  isRootAware := true
  run := fun args _ => Loop.run args

end BrickPipeline.Brick
