import BrickPipeline.Run.Backoff
import BrickPipeline.Wire

/-!
What a run leaves behind besides its answer: log lines, trace records, deployment alerts and
waits.
-/
namespace BrickPipeline

namespace Log

/-- The severity of a line. -/
inductive Level where
  | debug
  | info
  | warn
  | error
deriving DecidableEq, Inhabited

def Level.name : Level → String
  | .debug => "debug"
  | .info => "info"
  | .warn => "warn"
  | .error => "error"

/-- The activity that a line belongs to. -/
inductive Span where
  | run (deploymentId : Option String)
  | brick (brickId : BrickId) (index : Nat)
deriving DecidableEq

def Span.name : Span → String
  | .run _ => "pipeline_run"
  | .brick .. => "brick"

def Span.fields : Span → List (String × Json)
  | .run deploymentId => [("deployment_id", .string (deploymentId.getD ""))]
  | .brick brickId index => [("brick_id", .string brickId.text), ("index", .nat index)]

/-- What somebody has to say, wherever it is said. -/
structure Entry where
  level : Level
  message : String
  fields : List (String × Json)

def Entry.plain (level : Level) (message : String) : Entry := ⟨level, message, []⟩

/-- A line of the log: an entry and the activity it was made in. -/
structure Line where
  entry : Entry
  span : Option Span

/-- The value of a field as text: a string as it is. -/
def valueText : Json → String
  | .string s => s
  | value => value.render

/-- The line as text: its level, its message and its fields. -/
def Line.text (line : Line) : String :=
  line.entry.fields.foldl (fun text (name, value) => text ++ s!" {name}={valueText value}")
    (line.entry.level.name.toUpper ++ " " ++ line.entry.message)

end Log

namespace Trace

/-- How a step ended. -/
inductive Outcome where
  | output (value : Json)
  | error (failure : Json)
  | skipped

/-- The record of one step. -/
structure Record where
  runId : Uuid
  brickId : BrickId
  instanceId : Option Uuid
  label : Option String
  /-- The position of the step in its scope. -/
  index : Nat
  renderedArgs : Json
  outcome : Outcome

def Outcome.toJson : Outcome → Json
  | .output value => .object [("type", .string "output"), ("value", value)]
  | .error failure => .object [("type", .string "error"), ("value", failure)]
  | .skipped => .object [("type", .string "skipped")]

def Outcome.read (origin : Wire.Origin) : Json.Tree → Wire.Read Outcome :=
  Wire.tagged origin "TraceOutcome" "type" "value" [
    ⟨"output", Wire.someContent "value" fun tree => .output <$> Wire.json tree⟩,
    ⟨"error", Wire.someContent "value" fun tree => .error <$> Wire.json tree⟩,
    ⟨"skipped", Wire.noContent "TraceOutcome::Skipped" .skipped⟩]

def Record.isError (record : Record) : Bool :=
  match record.outcome with
  | .error _ => true
  | _ => false

def Record.toJson (record : Record) : Json :=
  .object ([("brickId", .string record.brickId.text), ("index", .nat record.index)] ++
    (match record.instanceId with
      | some instanceId => [("instanceId", .string instanceId.text)]
      | none => []) ++
    (match record.label with
      | some label => [("label", .string label)]
      | none => []) ++
    [("outcome", record.outcome.toJson), ("renderedArgs", record.renderedArgs),
      ("runId", .string record.runId.text)])

end Trace

/-- A message to the alert channel of a deployment. -/
structure Alert where
  deploymentId : String
  runId : Uuid
  brickId : BrickId
  error : Json

def Alert.toJson (alert : Alert) : Json :=
  .object [("brickId", .string alert.brickId.text), ("deploymentId", .string alert.deploymentId),
    ("error", alert.error), ("runId", .string alert.runId.text)]

/-- What happens in a run, in order. -/
inductive Event where
  | log (line : Log.Line)
  | trace (record : Trace.Record)
  | alert (alert : Alert)
  | wait (duration : Duration)

namespace Event

def logLines (events : List Event) : List Log.Line :=
  events.filterMap fun
    | .log written => some written
    | _ => none

def records (events : List Event) : List Trace.Record :=
  events.filterMap fun
    | .trace made => some made
    | _ => none

def alerts (events : List Event) : List Alert :=
  events.filterMap fun
    | .alert sent => some sent
    | _ => none

def waits (events : List Event) : List Duration :=
  events.filterMap fun
    | .wait waited => some waited
    | _ => none

def elapsedMillis (events : List Event) : Nat :=
  (waits events).foldr (fun waited millis => waited.toMillis + millis) 0

@[simp] theorem records_append (xs ys : List Event) :
    records (xs ++ ys) = records xs ++ records ys := List.filterMap_append ..

@[simp] theorem alerts_append (xs ys : List Event) :
    alerts (xs ++ ys) = alerts xs ++ alerts ys := List.filterMap_append ..

@[simp] theorem waits_append (xs ys : List Event) :
    waits (xs ++ ys) = waits xs ++ waits ys := List.filterMap_append ..

end Event
end BrickPipeline
