import BrickPipeline.Brick.Arguments
import BrickPipeline.Brick.Attempts

/-!
The repeating brick: its body runs until it succeeds or the attempts are used up.
-/
namespace BrickPipeline.Brick

open Arguments

variable {σ : Type}

namespace Repetition

def id : BrickId := ⟨"@brick/retry", by decide⟩

/-- The number of attempts without an argument for it. -/
def defaultAttempts : Nat := 3

/-- The longest wait, unless the first one is longer. -/
def maxBackoff : Duration := .ofSeconds 30

/-- The policy that the arguments ask for; no interval is no wait. -/
def policy (args : Json) : Except Error Backoff := do
  let interval := Duration.ofMillis (← count id args "intervalMillis" 0)
  match (string? args "backoff").getD "fixed" with
  | "fixed" => return if interval.isZero then .immediate else .fixed interval
  | "exponential" =>
    return if interval.isZero then .immediate
      else .exponential interval (maxBackoff.longer interval)
  | other => .error (.invalidArgument id "backoff" s!"unknown backoff '{other}'")

/-- The body, the number of attempts and the policy. -/
def arguments (args : Json) : Except Error (SubPipeline × Nat × Backoff) := do
  let body ← subPipeline id args "body"
  let maxAttempts ← count id args "maxRetries" defaultAttempts
  return (body, maxAttempts, ← policy args)

/-- One attempt; every one after the first is announced. -/
def attempt (body : SubPipeline) (number : Nat) : Routine σ (Except Error Json) :=
  let call := .call body [] .done
  if number = 0 then call
  else .log (.plain .info s!"retry attempt {number + 1}") call

def run (args : Json) : Routine σ (Except Error Json) :=
  match arguments args with
  | .error error => .done (.error error)
  | .ok (body, maxAttempts, policy) =>
    Attempts.untilSuccess (attempt body) maxAttempts policy id.text

end Repetition

/-- Runs `body` up to `maxRetries` times in all, until it succeeds. -/
def retry : Brick σ where
  id := Repetition.id
  inputSchema := Arguments.schema
    [("body", pipelineSchema), ("maxRetries", countSchema), ("intervalMillis", countSchema),
      ("backoff", wordSchema ["fixed", "exponential"])] ["body"]
  isPure := false
  isRootAware := true
  run := fun args _ => Repetition.run args

end BrickPipeline.Brick
