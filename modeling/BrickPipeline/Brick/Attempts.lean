import BrickPipeline.Brick.Routine

/-!
Repeated attempts: a routine is attempted until it succeeds or the attempts are used up, with a
wait after every failure but the last.
-/
namespace BrickPipeline

namespace Attempts

variable {σ α : Type}

/-- What is logged when the attempts are used up. -/
def givingUp (label : String) (failures : Nat) : Log.Entry :=
  ⟨.debug, "Giving up", [("failures", .nat failures), ("step", .string label)]⟩

def retrying (label : String) (maxAttempts failures : Nat) (wait : Duration) (error : Error) :
    Log.Entry :=
  ⟨.warn, "Attempt failed, retrying",
    [("step", .string label), ("failures", .nat failures), ("max_attempts", .nat maxAttempts),
      ("wait_ms", .nat wait.toMillis), ("error", .string error.message)]⟩

/-- Attempt again, with the given number of attempts to spare after this one. -/
def remaining (attempt : Nat → Routine σ (Except Error α)) (policy : Backoff) (label : String)
    (maxAttempts : Nat) : Nat → Nat → Routine σ (Except Error α)
  | spare, failures => (attempt failures).bind fun
    | .ok value => .done (.ok value)
    | .error error =>
      match spare with
      | 0 => .log (givingUp label (failures + 1)) (.done (.error error))
      | spare + 1 =>
        let wait := policy.delay (failures + 1)
        .log (retrying label maxAttempts (failures + 1) wait error) <|
          .wait wait (remaining attempt policy label maxAttempts spare (failures + 1))

/-- Attempt up to `maxAttempts` times, and at least once. Attempts are numbered from zero; the
last failure is the answer when all fail. -/
def untilSuccess (attempt : Nat → Routine σ (Except Error α)) (maxAttempts : Nat)
    (policy : Backoff) (label : String) : Routine σ (Except Error α) :=
  remaining attempt policy label (max 1 maxAttempts) (max 1 maxAttempts - 1) 0

end Attempts

end BrickPipeline
