import BrickPipeline.Run.Step
import BrickPipeline.Service.Locator

/-!
Running pipelines. Steps run in order over a context; the first that fails ends its pipeline.
Nesting of pipelines is bounded by a depth; beyond it a run has no answer.
-/
namespace BrickPipeline.Host

variable {σ : Type}

/-- Run the remaining steps of a scope. A value is bound if the step has an output key and
carried on if not; the answer is the last value. -/
def runSteps (host : Host σ) (info : RunInfo)
    (nested : Pipeline → Context → Exec σ (Except Error Json)) :
    Pipeline → Nat → Context → Json → Json → Exec σ (Except Error Json)
  | [], _, _, _, last => pure (.ok last)
  | step :: rest, index, ctx, running, last => do
    match ← host.runStep info nested step index ctx running with
    | .error error => return .error error
    | .ok none => runSteps host info nested rest (index + 1) ctx running last
    | .ok (some value) =>
      match step.outputKey with
      | some outputKey =>
        runSteps host info nested rest (index + 1) (ctx.bindOutput outputKey value) running value
      | none => runSteps host info nested rest (index + 1) ctx value value

/-- Run a pipeline in a context, with pipelines nesting below the given depth. -/
def runPipeline (host : Host σ) (info : RunInfo) :
    Nat → Pipeline → Context → Exec σ (Except Error Json)
  | 0, _, _ => Exec.tooDeep
  | depth + 1, steps, ctx =>
    host.runSteps info (runPipeline host info depth) steps 0 ctx
      ((ctx.get? inputKey).getD .null) .null

def startedEntry (info : RunInfo) (steps : Pipeline) : Log.Entry :=
  ⟨.info, "Pipeline started",
    [("api_version", .string info.apiVersion.name), ("steps", .nat steps.length)]⟩

def endedEntry : Except Error Json → Log.Entry
  | .ok _ => .plain .info "Pipeline completed"
  | .error error => ⟨.warn, "Pipeline failed", [("error", .string error.message)]⟩

def run (host : Host σ) (depth : Nat) (steps : Pipeline) (input : Json)
    (options : RunSettings) : Exec σ (Except Error Json) := do
  let span := some (Log.Span.run options.deploymentId)
  Exec.log span (startedEntry options.toRunInfo steps)
  let answer ← host.runPipeline options.toRunInfo depth steps (options.context input)
  Exec.log span (endedEntry answer)
  return answer

/-- Resolve the dependencies of a document and run it. The locator is left in the state that
resolving has brought it to. -/
def runDocument {L : Type} [Locator L] (host : Host σ) (depth : Nat) (document : Document)
    (input : Json) (locator : L) : L × Exec σ (Except Error Json) :=
  let built := Locator.bindAll locator document.dependencies
  (built.locator, do
    Exec.emitAll (built.log.map fun entry => .log ⟨entry, none⟩)
    match built.answer with
    | .error error => return .error error
    | .ok services =>
      host.run depth document.pipeline input (document.settings services))

end BrickPipeline.Host
