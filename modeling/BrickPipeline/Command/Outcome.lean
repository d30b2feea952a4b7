import BrickPipeline.Command.Invocation
import BrickPipeline.Run.Pipeline
import BrickPipeline.Document.Lint

/-!
What the commands do with the files that they are given. Everything is decided here; reading
files and printing are left to the program.
-/
namespace BrickPipeline.Command

def versionText : String := "bricks 0.5.0"

def usageText : String :=
  "Runner for declarative brick pipelines\n\nUsage: bricks [OPTIONS] <run|validate|info|bricks>"

/-- The end of a command. -/
structure Outcome where
  status : UInt8
  /-- The lines of the output. -/
  output : List String
  /-- The failure, if there is one to report. -/
  failure : Option String
  /-- What happened in a run. -/
  events : List Event
  /-- Whether trace records are to be printed. -/
  trace : Bool
  /-- Whether the log is to be printed in full. -/
  verbose : Bool

namespace Outcome

def success (output : List String) : Outcome := ⟨0, output, none, [], false, false⟩

def failed (message : String) : Outcome := ⟨1, [], some message, [], false, false⟩

def misuse : Outcome := ⟨2, [], none, [], false, false⟩

def records (outcome : Outcome) : List Trace.Record :=
  if outcome.trace then Event.records outcome.events else []

/-- The log lines to print: all but those for debugging, or all. -/
def logLines (outcome : Outcome) : List Log.Line :=
  (Event.logLines outcome.events).filter fun line => outcome.verbose || line.entry.level ≠ .debug

/-- What is written to the error output: the log, the trace records and the failure. -/
def errorOutput (outcome : Outcome) : List String :=
  outcome.logLines.map Log.Line.text ++ outcome.records.map (·.toJson.render) ++
    (outcome.failure.map fun message => "Error: " ++ message).toList

end Outcome

/-- Load a document; what is wrong with it is not told. -/
def loadDocument (files : Files) (path : String) : Except String Document :=
  match (files path).text >>= Document.parse with
  | .ok document => .ok document
  | .error _ => .error s!"failed to load {path}"

def services (files : Files) (document : Document) (integrations : Option String) :
    Except Error BoundServices :=
  match integrations with
  | none => (Locator.bindAll (MemoryLocator.ofServices []) document.dependencies).answer
  | some path => do
    let locator ← FileLocator.openFile (files path)
    (Locator.bindAll locator document.dependencies).answer

/-- The input that is given as text; without one it is null. -/
def readInput (source : Option String) : Except String Json :=
  match source with
  | none => .ok .null
  | some source =>
    match Json.read? source with
    | some input => .ok input
    | none => .error "--input is not valid JSON"

def settings (document : Document) (services : BoundServices) (freshId : Uuid)
    (arguments : RunArguments) : RunSettings :=
  let options := document.settings services
  { options with
    root := (arguments.root.map fun root => Root.ofSelector (some root)).getD options.root
    deploymentId := arguments.deploymentId.or options.deploymentId
    runId := arguments.runId.getD freshId }

def host : Host Unit :=
  { Host.ofRegistry Registry.standard with alerter := .logged }

/-- Everything that a run needs, or why it cannot start. -/
def prepareRun (files : Files) (path : String) (freshId : Uuid) (arguments : RunArguments) :
    Except String (Document × Json × RunSettings) := do
  let document ← loadDocument files path
  let _ ← (Lint.check host.registry document).mapError Error.message
  let input ← readInput arguments.input
  let services ← (services files document arguments.integrations).mapError Error.message
  return (document, input, settings document services freshId arguments)

def run (files : Files) (depth : Nat) (path : String) (freshId : Uuid)
    (arguments : RunArguments) : Outcome :=
  match prepareRun files path freshId arguments with
  | .error message => .failed message
  | .ok (document, input, options) =>
    let ran := host.run depth document.pipeline input options ()
    let ended : Outcome := match ran.answer with
      | some (.ok value) => .success [value.pretty]
      | some (.error error) => .failed error.message
      | none => .failed "pipelines nest too deep"
    { ended with events := ran.events, trace := arguments.trace, verbose := arguments.verbose }

def mark : Severity → String
  | .error => "ERROR"
  | .warning => "WARN"
  | .info => "INFO"

def diagnosticLines (diagnostic : Diagnostic) : List String :=
  let place := match diagnostic.path with
    | some path => s!" at {path}"
    | none => ""
  s!"[{mark diagnostic.severity}] {diagnostic.rule}{place}: {diagnostic.message}" ::
    (match diagnostic.fix with
      | some fix => [s!"    fix: {fix}"]
      | none => [])

def validate (files : Files) (path : String) : Outcome :=
  match loadDocument files path with
  | .error message => .failed message
  | .ok document =>
    match Lint.diagnose host.registry document with
    | [] => .success ["Pipeline is valid"]
    | diagnostics =>
      let status := if diagnostics.any (·.severity = .error) then 1 else 0
      ⟨status, diagnostics.flatMap diagnosticLines, none, [], false, false⟩

def dependencyLine (dependency : Dependency) : String :=
  let key := String.ofList (dependency.outputKey.toList.dropWhile (· == '@'))
  let config := match dependency.configId with
    | some configId => s!" (config {configId})"
    | none => ""
  s!"  @{key} <- {dependency.integrationId}{config}"

def infoLines (document : Document) : List String :=
  let registry := host.registry
  (document.name.map fun name => s!"Pipeline: {name}").toList ++
    [s!"API version: {document.apiVersion.name}",
      s!"Steps: {document.pipeline.length}",
      s!"Pure: {registry.isPure document.pipeline}",
      s!"Root-aware: {registry.isRootAware document.pipeline}"] ++
    (document.deploymentId.map fun id => s!"Deployment: {id}").toList ++
    ["", "Bricks:"] ++
    (Pipeline.brickIds document.pipeline).map (fun id =>
      "  " ++ id ++ (if registry.has id then "" else " (unknown)")) ++
    (if document.dependencies.isEmpty then []
      else ["", "Integrations:"] ++ document.dependencies.map dependencyLine)

def info (files : Files) (path : String) : Outcome :=
  match loadDocument files path with
  | .error message => .failed message
  | .ok document => .success (infoLines document)

def brickLine (brick : Brick Unit) : String :=
  let traits := (if brick.isPure then ["pure"] else []) ++
    (if brick.isRootAware then ["root-aware"] else [])
  if traits.isEmpty then brick.id.text
  else brick.id.text ++ " [" ++ ", ".intercalate traits ++ "]"

def bricks : Outcome := .success (host.registry.bricks.values.map brickLine)

def perform (files : Files) (depth : Nat) (freshId : Uuid) : Invocation → Outcome
  | .run path arguments => run files depth path freshId arguments
  | .validate path => validate files path
  | .info path => info files path
  | .bricks => bricks
  | .help => .success [usageText]
  | .version => .success [versionText]

def Invocation.paths : Invocation → List String
  | .run document arguments => document :: arguments.integrations.toList
  | .validate document | .info document => [document]
  | _ => []

end BrickPipeline.Command
