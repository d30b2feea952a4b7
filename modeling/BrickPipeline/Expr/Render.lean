import BrickPipeline.Expr.Wire

/-!
Rendering of a step's arguments. In explicit mode only expressions are interpreted and entries
that render to null are left out; in implicit mode every plain string is a bound path or a
template. Sub-pipelines and deferred values pass through in both.
-/
namespace BrickPipeline

/-- How plain config values are interpreted. -/
inductive RenderMode where
  | explicit
  | implicit (engine : Engine)
deriving DecidableEq

def RenderMode.isExplicit : RenderMode → Bool
  | .explicit => true
  | .implicit _ => false

namespace Render

/-- Add an entry in front unless it is null. -/
def consUnlessNull (key : String) (value : Json) (rest : List (String × Json)) :
    List (String × Json) :=
  if value.isNull then rest else (key, value) :: rest

/-- The value of a variable: what is visible at its path, null if there is nothing. -/
def variableValue (path : Option String) (ctx : Context) : Json :=
  match path with
  | none => .null
  | some path => ((Path.getVisible? ctx.bindings path).map Json.withoutService).getD .null

/-- The text of a template; no source is no text. -/
def templateText (renderers : Renderers) (engine : Engine) (source : Option String)
    (ctx : Context) : Except Error Json :=
  match source with
  | none => .ok (.string "")
  | some source => .string <$> renderers.render engine source ctx.bindings

def literal (renderers : Renderers) (engine : Engine) (value : Json) (ctx : Context) :
    Except Error Json :=
  match value with
  | .string text =>
    if Path.isSimple text ctx.bindings then .ok (Path.getService ctx.bindings text)
    else .string <$> renderers.render engine text ctx.bindings
  | value => .ok value

mutual

def explicit (renderers : Renderers) (ctx : Context) : Expr → Except Error Json
  | .literal value => .ok value
  | .template engine source => templateText renderers engine source ctx
  | .var path => .ok (variableValue path ctx)
  | .pipeline steps environment => .ok (Expr.pipeline steps environment).toJson
  | .defer inner => .ok (Expr.defer inner).toJson
  | .array items => .array <$> explicitItems renderers ctx items
  | .object entries => .object <$> explicitEntries renderers ctx entries

/-- Render the elements; nulls stay. -/
def explicitItems (renderers : Renderers) (ctx : Context) :
    List Expr → Except Error (List Json)
  | [] => .ok []
  | item :: rest =>
    return (← explicit renderers ctx item) :: (← explicitItems renderers ctx rest)

/-- Render the entries; nulls are left out. -/
def explicitEntries (renderers : Renderers) (ctx : Context) :
    List (String × Expr) → Except Error (List (String × Json))
  | [] => .ok []
  | (key, value) :: rest =>
    return consUnlessNull key (← explicit renderers ctx value)
      (← explicitEntries renderers ctx rest)

end

mutual

def implicit (renderers : Renderers) (engine : Engine) (ctx : Context) :
    Expr → Except Error Json
  | .literal value => literal renderers engine value ctx
  | .template engine source => templateText renderers engine source ctx
  | .var path => .ok (variableValue path ctx)
  | .pipeline steps environment => .ok (Expr.pipeline steps environment).toJson
  | .defer inner => .ok (Expr.defer inner).toJson
  | .array items => .array <$> implicitItems renderers engine ctx items
  | .object entries => .object <$> implicitEntries renderers engine ctx entries

def implicitItems (renderers : Renderers) (engine : Engine) (ctx : Context) :
    List Expr → Except Error (List Json)
  | [] => .ok []
  | item :: rest =>
    return (← implicit renderers engine ctx item) ::
      (← implicitItems renderers engine ctx rest)

/-- Render the entries; nulls stay. -/
def implicitEntries (renderers : Renderers) (engine : Engine) (ctx : Context) :
    List (String × Expr) → Except Error (List (String × Json))
  | [] => .ok []
  | (key, value) :: rest =>
    return (key, ← implicit renderers engine ctx value) ::
      (← implicitEntries renderers engine ctx rest)

end

def value (renderers : Renderers) (mode : RenderMode) (ctx : Context) (config : Expr) :
    Except Error Json :=
  match mode with
  | .explicit => explicit renderers ctx config
  | .implicit engine => implicit renderers engine ctx config

/-- Render the arguments of a step in a mode. -/
def arguments (renderers : Renderers) (mode : RenderMode) (ctx : Context)
    (config : Entries Expr) : Except Error Json :=
  match mode with
  | .explicit => .object <$> explicitEntries renderers ctx config
  | .implicit engine => .object <$> implicitEntries renderers engine ctx config

/-- Render an argument that was deferred; other arguments are rendered as they are. -/
def deferred (renderers : Renderers) (ctx : Context) (argument : Json) : Except Error Json := do
  match ← Expr.fromJson argument with
  | .defer inner => explicit renderers ctx inner
  | config => explicit renderers ctx config

end Render

/-- The words that count as true, in lower case. -/
def trueWords : List String := ["true", "t", "yes", "y", "on", "1"]

/-- Loose truth of a value, for conditions. -/
def Json.isTruthy : Json → Bool
  | .null => false
  | .bool b => b
  | .number n => n.toDouble?.any fun x => !x.isZero
  | .string s => trueWords.contains (String.ofList ((Text.trim s.toList).map Char.toLower))
  | .array _ | .object _ => true

end BrickPipeline
