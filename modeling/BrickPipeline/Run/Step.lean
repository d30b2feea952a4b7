import BrickPipeline.Run.Exec
import BrickPipeline.Run.Host

/-!
Running one step. What happens before its brick runs is decided without events; a step that fails
is wrapped once, at the innermost step, and every step leaves exactly one trace record.
-/
namespace BrickPipeline.Host

variable {σ : Type}

/-- A step before its brick runs. -/
inductive Prepared (σ : Type) where
  /-- The step cannot run; the arguments are null unless they were rendered. -/
  | failed (args : Json) (error : Error)
  | skipped
  | ready (brick : Brick σ) (args : Json)

/-- The context that arguments are rendered in: in implicit mode the fields of the running value
lie beneath the bindings. -/
def renderContext (mode : RenderMode) (ctx : Context) (running : Json) : Context :=
  match mode with
  | .explicit => ctx
  | .implicit _ => ctx.withFallback running

/-- Whether the condition of a step holds; no condition does. -/
def holds (host : Host σ) (mode : RenderMode) (ctx : Context) (step : Step) :
    Except Error Bool :=
  match step.condition with
  | none => .ok true
  | some condition => Json.isTruthy <$> Render.value host.renderers mode ctx condition

/-- Look up the brick, render the arguments and check them. -/
def prepareArguments (host : Host σ) (mode : RenderMode) (ctx : Context) (step : Step) :
    Prepared σ :=
  match host.registry.get? step.id.text with
  | none => .failed .null (.unknownBrick step.id)
  | some brick =>
    match Render.arguments host.renderers mode ctx step.config with
    | .error error => .failed .null error
    | .ok args =>
      match host.validator args brick.inputSchema with
      | [] => .ready brick args
      | errors => .failed args (.validation step.id errors)

/-- Everything that is decided before the brick of a step runs. -/
def prepare (host : Host σ) (version : ApiVersion) (step : Step) (ctx : Context)
    (running : Json) : Prepared σ :=
  match step.outputKey.filter isReserved with
  | some outputKey => .failed .null (.reservedOutputKey outputKey)
  | none =>
    let mode := version.renderMode step.templateEngine
    let renderCtx := renderContext mode ctx running
    match host.holds mode renderCtx step with
    | .error error => .failed .null error
    | .ok false => .skipped
    | .ok true => host.prepareArguments mode renderCtx step

def access (host : Host σ) (info : RunInfo) (step : Step) (brick : Brick σ)
    (ctx : Context) : Brick.Access :=
  ⟨ctx, if brick.isRootAware then info.root else .document, step.id, host.renderers, info⟩

def record (info : RunInfo) (step : Step) (index : Nat) (args : Json) (outcome : Trace.Outcome) :
    Trace.Record :=
  ⟨info.runId, step.id, step.instanceId, step.label, index, args, outcome⟩

/-- The failure with a layer for the step, unless a nested step has put one on. -/
def wrap (step : Step) (ctx : Context) (error : Error) : Error :=
  if error.isContext then error else .context step.id ctx.bindings false error

def markAlerted : Error → Error
  | .context brickId bindings _ source => .context brickId bindings true source
  | error => error

/-- The alert that a wrapped failure of a step calls for: one per failure, in a deployment, if the
step asks for it. -/
def alertFor? (info : RunInfo) (step : Step) (error : Error) : Option Alert :=
  if step.alerts && !error.isAlerted then
    info.deploymentId.map fun deploymentId =>
      ⟨deploymentId, info.runId, step.id, error.toJson⟩
  else none

/-- The entry for an alert that could not be delivered. -/
def undelivered (step : Step) (error : Error) : Log.Entry :=
  ⟨.warn, "Failed to send deployment alert",
    [("brick_id", .string step.id.text), ("error", .string error.message)]⟩

def sendAlert (host : Host σ) (span : Option Log.Span) (step : Step) (alert : Alert) :
    Exec σ Unit := do
  Exec.emit (.alert alert)
  Exec.emitAll ((host.alerter.entries alert).map fun entry => .log ⟨entry, span⟩)
  match host.alerter.failure (← Exec.current) alert with
  | none => pure ()
  | some error => Exec.log span (undelivered step error)

def stepEntry (level : Log.Level) (message : String) (step : Step) : Log.Entry :=
  ⟨level, message, [("brick_id", .string step.id.text)]⟩

def failedEntry (step : Step) (error : Error) : Log.Entry :=
  ⟨.warn, "Step failed",
    [("brick_id", .string step.id.text), ("error", .string error.message)]⟩

/-- A step fails: wrap the failure, alert if the step asks for it, and record the step. -/
def fail (host : Host σ) (info : RunInfo) (step : Step) (index : Nat) (ctx : Context)
    (args : Json) (error : Error) : Exec σ (Except Error (Option Json)) := do
  let span := some (Log.Span.brick step.id index)
  let error := wrap step ctx error
  Exec.log span (failedEntry step error)
  let error ← match alertFor? info step error with
    | none => pure error
    | some alert => do
      host.sendAlert span step alert
      pure (markAlerted error)
  Exec.emit (.trace (record info step index args (.error error.toJson)))
  return .error error

/-- Run one step; a skipped step has no value. -/
def runStep (host : Host σ) (info : RunInfo)
    (nested : Pipeline → Context → Exec σ (Except Error Json)) (step : Step) (index : Nat)
    (ctx : Context) (running : Json) : Exec σ (Except Error (Option Json)) := do
  let span := some (Log.Span.brick step.id index)
  match host.prepare info.apiVersion step ctx running with
  | .failed args error => host.fail info step index ctx args error
  | .skipped => do
    Exec.log span (stepEntry .debug "Condition is falsy, skipping step" step)
    Exec.emit (.trace (record info step index .null .skipped))
    return .ok none
  | .ready brick args => do
    Exec.log span (stepEntry .debug "Running brick" step)
    match ← (brick.run args (host.access info step brick ctx)).exec nested span ctx with
    | .error error => host.fail info step index ctx args error
    | .ok value => do
      Exec.log span (stepEntry .debug "Brick completed" step)
      Exec.emit (.trace (record info step index args (.output value)))
      return .ok (some value)

end BrickPipeline.Host
