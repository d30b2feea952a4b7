import BrickPipeline.Json.Basic

/-!
The bindings that a step sees. A context is a value: binding a key makes a new one, so a nested
scope cannot change the scope around it.
-/
namespace BrickPipeline

/-- The key that holds the input of a run. -/
def inputKey : String := "@input"

/-- The key that holds the options of a run. -/
def optionsKey : String := "@options"

/-- The key under which an output key binds: `foo` and `@foo` both bind `@foo`. -/
def bindingKey (outputKey : String) : String :=
  match outputKey.toList with
  | '@' :: _ => outputKey
  | _ => "@" ++ outputKey

/-- Whether binding an output key would replace the input or the options of the run. -/
def isReserved (outputKey : String) : Bool :=
  let key := bindingKey outputKey
  key == inputKey || key == optionsKey

/-- An environment of bound values, in key order. -/
structure Context where
  bindings : Entries Json
deriving Inhabited

namespace Context

def empty : Context := ⟨[]⟩

def initial (input options : Json) : Context :=
  ⟨Entries.ofList [(inputKey, input), (optionsKey, options)]⟩

def get? (ctx : Context) (key : String) : Option Json := Entries.get? key ctx.bindings

def getOutput? (ctx : Context) (outputKey : String) : Option Json :=
  ctx.get? (bindingKey outputKey)

def bind (ctx : Context) (key : String) (value : Json) : Context :=
  ⟨Entries.insert key value ctx.bindings⟩

def bindOutput (ctx : Context) (outputKey : String) (value : Json) : Context :=
  ctx.bind (bindingKey outputKey) value

def bindAll (ctx : Context) (updates : List (String × Json)) : Context :=
  ⟨Entries.insertAll ctx.bindings updates⟩

/-- Spread the fields of an object beneath the bindings; other values add nothing. -/
def withFallback (ctx : Context) (running : Json) : Context :=
  match running with
  | .object fields => ⟨Entries.insertAll fields ctx.bindings⟩
  | _ => ctx

def toJson (ctx : Context) : Json := .object ctx.bindings

def same (a b : Context) : Bool := Json.sameFields a.bindings b.bindings

theorem get?_bind_self (ctx : Context) (key : String) (value : Json) :
    (ctx.bind key value).get? key = some value :=
  Entries.get?_insert_self key value ctx.bindings

theorem get?_bind_of_ne (ctx : Context) {key other : String} (h : other ≠ key)
    (value : Json) : (ctx.bind key value).get? other = ctx.get? other :=
  Entries.get?_insert_of_ne h value ctx.bindings

end Context
end BrickPipeline
