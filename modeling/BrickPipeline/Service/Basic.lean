import BrickPipeline.Scope.Context
import BrickPipeline.Scope.Path
import BrickPipeline.Wire.Shape

/-!
Integration dependencies, configured services, and the bindings made of them. What is bound never
holds a secret field of the service.
-/
namespace BrickPipeline

open Wire (Read RecordType)

/-- An integration that a document needs, and the key it is bound under. -/
structure Dependency where
  integrationId : String
  outputKey : String
  /-- A particular configuration; without one the first match counts. -/
  configId : Option String
deriving DecidableEq, Inhabited

/-- A configuration of an integration. -/
structure Service where
  id : String
  integrationId : String
  label : Option String
  config : Entries Json
  /-- The config fields that must not reach a context. -/
  secretFields : List String
  /-- Whether requests go through a credential proxy. -/
  proxy : Bool
deriving Inhabited

namespace Dependency

def record : RecordType Json.Tree Dependency := ⟨"ServiceDependency", [
  ⟨"id", true, fun t d => return { d with integrationId := ← Wire.string t }⟩,
  ⟨"outputKey", true, fun t d => return { d with outputKey := ← Wire.string t }⟩,
  ⟨"config", false, fun t d => return { d with configId := ← Wire.optional Wire.string t }⟩]⟩

def read (origin : Wire.Origin) : Json.Tree → Read Dependency :=
  record.read origin ⟨"", "", none⟩

def toJson (dependency : Dependency) : Json :=
  .object ((match dependency.configId with
      | some configId => [("config", .string configId)]
      | none => []) ++
    [("id", .string dependency.integrationId), ("outputKey", .string dependency.outputKey)])

def bindingKey (dependency : Dependency) : String := BrickPipeline.bindingKey dependency.outputKey

end Dependency

namespace Service

def record : RecordType Json.Tree Service := ⟨"ConfiguredService", [
  ⟨"id", true, fun t s => return { s with id := ← Wire.string t }⟩,
  ⟨"integrationId", true, fun t s => return { s with integrationId := ← Wire.string t }⟩,
  ⟨"label", false, fun t s => return { s with label := ← Wire.optional Wire.string t }⟩,
  ⟨"config", false, fun t s => return { s with config := ← Wire.map t }⟩,
  ⟨"secretFields", false, fun t s =>
    return { s with secretFields := ← Wire.list Wire.string t }⟩,
  ⟨"proxy", false, fun t s => return { s with proxy := ← Wire.bool t }⟩]⟩

def read (origin : Wire.Origin) : Json.Tree → Read Service :=
  record.read origin ⟨"", "", none, [], [], false⟩

def shape : Wire.Shape := .record record.name [
  ("id", true, .string), ("integrationId", true, .string), ("label", false, .optional .string),
  ("config", false, .map), ("secretFields", false, .list .string), ("proxy", false, .bool)]

def toJson (service : Service) : Json :=
  .object ([("config", .object service.config), ("id", .string service.id),
      ("integrationId", .string service.integrationId)] ++
    (match service.label with
      | some label => [("label", .string label)]
      | none => []) ++
    [("proxy", .bool service.proxy),
      ("secretFields", .array (service.secretFields.map Json.string))])

def addSecret (service : Service) (field : String) : Service :=
  { service with secretFields := service.secretFields ++ [field] }

def isSecret (service : Service) (field : String) : Bool := service.secretFields.contains field

def publicConfig (service : Service) : Entries Json :=
  service.config.filter fun field => !service.isSecret field.1

/-- The service without the secret fields in its config. -/
def withoutSecrets (service : Service) : Service :=
  { service with config := service.publicConfig }

end Service

/-- A service bound under an output key; its fields and its record hold no secrets. -/
structure BoundService where
  outputKey : String
  fields : Entries Json
  service : Service
deriving Inhabited

namespace BoundService

def new (outputKey : String) (service : Service) : BoundService :=
  ⟨outputKey, service.publicConfig, service.withoutSecrets⟩

/-- The bound value: the fields, and the record of the service under a hidden key. -/
def toValue (entry : BoundService) : Json :=
  .object (Entries.insert serviceKey entry.service.toJson entry.fields)

end BoundService

/-- The services bound for a run, by binding key. -/
structure BoundServices where
  entries : Entries BoundService
deriving Inhabited

namespace BoundServices

def empty : BoundServices := ⟨[]⟩

/-- Bind an entry under its own key, unless that key is reserved. -/
def insert (services : BoundServices) (entry : BoundService) : Except Error BoundServices :=
  if isReserved entry.outputKey then .error (.reservedOutputKey entry.outputKey)
  else .ok ⟨Entries.insert (bindingKey entry.outputKey) entry services.entries⟩

def ofEntries (entries : List BoundService) : Except Error BoundServices :=
  entries.foldlM insert empty

def get? (services : BoundServices) (outputKey : String) : Option BoundService :=
  Entries.get? (bindingKey outputKey) services.entries

def bindings (services : BoundServices) : List (String × Json) :=
  services.entries.map fun (key, entry) => (key, entry.toValue)

end BoundServices
end BrickPipeline
