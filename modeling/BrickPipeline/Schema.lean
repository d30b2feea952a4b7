import BrickPipeline.Json.Printer

/-!
Validation of arguments against the schema keywords that bricks use: `type`, `enum`, `minimum`,
`maximum`, `required`, `properties` and `items`. Other keywords are ignored.
-/
namespace BrickPipeline.Schema

/-- A way in which a value fails its schema. -/
inductive Violation where
  | notAllowed
  | wrongType (expected : List String) (found : String)
  | notListed (value : Json) (options : List Json)
  | tooSmall (number minimum : Json.Double)
  | tooLarge (number maximum : Json.Double)
  | missing (name : String)

def plain (x : Json.Double) : String := Json.Decimal.text .plain x

def Violation.message : Violation → String
  | .notAllowed => "no value is allowed"
  | .wrongType expected found => "expected " ++ " or ".intercalate expected ++ ", got " ++ found
  | .notListed value options => value.render ++ " is not one of " ++ (Json.array options).render
  | .tooSmall number minimum => plain number ++ " is less than the minimum of " ++ plain minimum
  | .tooLarge number maximum =>
    plain number ++ " is greater than the maximum of " ++ plain maximum
  | .missing name => "missing required property '" ++ name ++ "'"

/-- A violation and the place of the value that it is about. -/
structure Finding where
  place : String
  violation : Violation

def Finding.message (finding : Finding) : String :=
  finding.place ++ ": " ++ finding.violation.message

def typeName : Json → String
  | .null => "null"
  | .bool _ => "boolean"
  | .number _ => "number"
  | .string _ => "string"
  | .array _ => "array"
  | .object _ => "object"

/-- Whether a value has a type; an unknown name admits every value. -/
def hasType (value : Json) (name : String) : Bool :=
  match name, value with
  | "null", .null => true
  | "boolean", .bool _ => true
  | "string", .string _ => true
  | "number", .number _ => true
  | "integer", .number (.integer _) => true
  | "array", .array _ => true
  | "object", .object _ => true
  | "null", _ | "boolean", _ | "string", _ | "number", _ | "integer", _ | "array", _
  | "object", _ => false
  | _, _ => true

/-- The type names that a schema admits; none means any. -/
def allowedTypes (keywords : Entries Json) : List String :=
  match Entries.get? "type" keywords with
  | some (.string name) => [name]
  | some (.array names) => names.filterMap Json.asString?
  | _ => []

/-- Whether a value has a type that the schema admits. -/
def typeOk (keywords : Entries Json) (value : Json) : Bool :=
  let allowed := allowedTypes keywords
  allowed.isEmpty || allowed.any (hasType value)

/-- A violation of `enum`. -/
def enumViolations (keywords : Entries Json) (value : Json) : List Violation :=
  match Entries.get? "enum" keywords with
  | some (.array options) =>
    if options.any (·.same value) then [] else [.notListed value options]
  | _ => []

def bound? (keywords : Entries Json) (name : String) : Option Json.Double := do
  (← Entries.get? name keywords).asDouble?

/-- Violations of `minimum` and `maximum`. -/
def boundViolations (keywords : Entries Json) (value : Json) : List Violation :=
  match value.asDouble? with
  | none => []
  | some number =>
    let low := match bound? keywords "minimum" with
      | some minimum => if number.lt minimum then [Violation.tooSmall number minimum] else []
      | none => []
    let high := match bound? keywords "maximum" with
      | some maximum => if maximum.lt number then [Violation.tooLarge number maximum] else []
      | none => []
    low ++ high

/-- Violations of `required`. -/
def requiredViolations (keywords : Entries Json) (value : Json) : List Violation :=
  match value, Entries.get? "required" keywords with
  | .object fields, some (.array names) =>
    (names.filterMap Json.asString?).filterMap fun name =>
      if Entries.contains name fields then none else some (.missing name)
  | _, _ => []

/-- The violations at the value itself, once its type is right. -/
def ownViolations (keywords : Entries Json) (value : Json) : List Violation :=
  enumViolations keywords value ++ boundViolations keywords value ++
    requiredViolations keywords value

def findings (place : String) (violations : List Violation) : List Finding :=
  violations.map fun violation => ⟨place, violation⟩

/-- The findings of a check on every element, each at its own place. -/
def eachItem (place : String) (items : List Json) (check : String → Json → List Finding) :
    List Finding :=
  (items.mapIdx fun index item => check s!"{place}[{index}]" item).flatten

mutual

/-- Everything wrong with a value, in order. A value of the wrong type is looked at no further. -/
def check (place : String) (value : Json) : Json → List Finding
  | .object keywords =>
    if typeOk keywords value then
      findings place (ownViolations keywords value) ++ checkInner place value keywords
    else findings place [.wrongType (allowedTypes keywords) (typeName value)]
  | .bool false => findings place [.notAllowed]
  | _ => []

/-- What the keywords with inner schemas find: `properties` in objects and `items` in arrays. -/
def checkInner (place : String) (value : Json) : List (String × Json) → List Finding
  | [] => []
  | (name, content) :: rest =>
    (match value with
      | .object fields => if name = "properties" then checkProperties place fields content else []
      | .array items =>
        if name = "items" then eachItem place items fun place item => check place item content
        else []
      | _ => []) ++ checkInner place value rest

/-- The findings in the fields that `properties` describes. -/
def checkProperties (place : String) (fields : Entries Json) : Json → List Finding
  | .object properties => checkFields place fields properties
  | _ => []

/-- The findings in the described fields that are present, in the order of the description. -/
def checkFields (place : String) (fields : Entries Json) : List (String × Json) → List Finding
  | [] => []
  | (name, schema) :: rest =>
    (match Entries.get? name fields with
      | some field => check s!"{place}.{name}" field schema
      | none => []) ++ checkFields place fields rest

end

def root : String := "$"

/-- The messages for everything wrong with a value; none if it satisfies the schema. -/
def violations (value schema : Json) : List String :=
  (check root value schema).map Finding.message

end BrickPipeline.Schema

namespace BrickPipeline

/-- Decides on arguments: the messages for everything wrong with a value under a schema. -/
abbrev Validator := Json → Json → List String

def Validator.acceptAll : Validator := fun _ _ => []

end BrickPipeline
