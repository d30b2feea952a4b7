import BrickPipeline.Brick.Arguments

/-!
The built-in bricks that run no pipeline: identity, throw and log.
-/
namespace BrickPipeline.Brick

open Arguments

variable {σ : Type}

def identity : Brick σ where
  id := ⟨"@brick/identity", by decide⟩
  inputSchema := anyObject
  isPure := true
  isRootAware := false
  run := fun args _ => .done (.ok args)

/-- Fails with an expected failure that carries a message. -/
def throw : Brick σ where
  id := ⟨"@brick/throw", by decide⟩
  inputSchema := Arguments.schema [("message", stringSchema)] ["message"]
  isPure := false
  isRootAware := false
  run := fun args _ => .done (.error (.business ((string? args "message").getD "")))

/-- The level of a name; other names are the ordinary level. -/
def levelNamed : String → Log.Level
  | "debug" => .debug
  | "warn" => .warn
  | "error" => .error
  | _ => .info

def log : Brick σ where
  id := ⟨"@brick/log", by decide⟩
  inputSchema := Arguments.schema
    [("message", stringSchema), ("level", wordSchema ["debug", "info", "warn", "error"])]
    ["message"]
  isPure := false
  isRootAware := false
  run := fun args _ =>
    let level := levelNamed ((string? args "level").getD "info")
    .log (.plain level ((string? args "message").getD "")) (.done (.ok .null))

end BrickPipeline.Brick
