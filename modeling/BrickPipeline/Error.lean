import BrickPipeline.Json.Printer
import BrickPipeline.Ident.BrickId

/-!
What can go wrong, by cause. `Error.message` is the only place where causes are put into words.
-/
namespace BrickPipeline

/-- A failure of reading, rendering, resolving or running. -/
inductive Error where
  /-- The rendered arguments violate the brick's schema. -/
  | validation (brickId : BrickId) (errors : List String)
  /-- A failure inside a pipeline, with the failing step's brick and bindings. -/
  | context (brickId : BrickId) (bindings : Entries Json) (alerted : Bool) (source : Error)
  /-- An expected failure, meant for the user. -/
  | business (message : String)
  | invalidArgument (brickId : BrickId) (arg message : String)
  | unknownBrick (brickId : BrickId)
  | invalidBrickId (id : String)
  | invalidDocument (reason : String)
  | reservedOutputKey (outputKey : String)
  | incompatibleService (integrationId message : String)
  | integrationNotFound (integrationId : String) (configId : Option String)
  | template (engine message : String)
  | invalidExpression (reason : String)
  /-- A file could not be read. -/
  | io (reason : String)
  /-- A file does not hold the JSON it should. -/
  | json (reason : String)
  | other (message : String)
deriving Inhabited

namespace Error

def name : Error → String
  | .validation .. => "ValidationError"
  | .context .. => "ContextError"
  | .business _ => "BusinessError"
  | .invalidArgument .. => "PropError"
  | .unknownBrick _ => "UnknownBrickError"
  | .invalidBrickId _ => "InvalidRegistryIdError"
  | .invalidDocument _ => "InvalidDocumentError"
  | .reservedOutputKey _ => "ReservedOutputKeyError"
  | .incompatibleService .. => "IncompatibleServiceError"
  | .integrationNotFound .. => "NotConfiguredError"
  | .template .. => "TemplateRenderError"
  | .invalidExpression _ => "InvalidExpressionError"
  | .io _ => "IOError"
  | .json _ => "SyntaxError"
  | .other _ => "Error"

def message : Error → String
  | .validation brickId errors =>
    s!"Invalid arguments for brick '{brickId}': " ++ "; ".intercalate errors
  | .context brickId _ _ source => s!"Error running brick '{brickId}': " ++ message source
  | .business message => message
  | .invalidArgument brickId arg message =>
    s!"Invalid argument '{arg}' for brick '{brickId}': {message}"
  | .unknownBrick brickId => s!"Unknown brick '{brickId}'"
  | .invalidBrickId id => s!"Invalid registry id '{id}'"
  | .invalidDocument reason => s!"Pipeline document is invalid: {reason}"
  | .reservedOutputKey outputKey => s!"Output key '{outputKey}' would shadow a reserved binding"
  | .incompatibleService integrationId message =>
    s!"Integration '{integrationId}' cannot serve this request: {message}"
  | .integrationNotFound integrationId _ =>
    s!"No configuration found for integration '{integrationId}'"
  | .template engine message => s!"Error rendering {engine} template: {message}"
  | .invalidExpression reason => s!"Invalid expression: {reason}"
  | .io reason => s!"IO error: {reason}"
  | .json reason => s!"JSON error: {reason}"
  | .other message => message

def cause : Error → Error
  | .context _ _ _ source => cause source
  | error => error

def innermostBrick? : Error → Option BrickId
  | .context brickId _ _ source => some ((innermostBrick? source).getD brickId)
  | _ => none

/-- Whether a deployment alert was sent for this failure. -/
def isAlerted : Error → Bool
  | .context _ _ alerted _ => alerted
  | _ => false

def isContext : Error → Bool
  | .context .. => true
  | _ => false

def isExpected (error : Error) : Bool :=
  match error.cause with
  | .business _ => true
  | _ => false

def violations? : Error → Option (List String)
  | .validation _ errors => some errors
  | _ => none

/--
The failure as data: name and message of the root cause, the failing brick if known, and the
violations if there are any to list.
-/
def toJson (error : Error) : Json :=
  let root := error.cause
  let brick := match error.innermostBrick? with
    | some brickId => [("brickId", Json.string brickId.text)]
    | none => []
  let errors := match root.violations? with
    | some errors => [("errors", Json.array (errors.map Json.string))]
    | none => []
  .object (brick ++ errors ++ [("message", .string root.message), ("name", .string root.name)])

end Error

/-- Read the identifier of a brick, or tell which text is none. -/
def BrickId.parse (text : String) : Except Error BrickId :=
  match parse? text with
  | some id => .ok id
  | none => .error (.invalidBrickId text)

end BrickPipeline
