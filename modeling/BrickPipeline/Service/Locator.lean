import BrickPipeline.File
import BrickPipeline.Run.Event
import BrickPipeline.Service.Basic

/-!
Locators find configured services. A locator answers from the services it knows and can be
refreshed; resolving a dependency refreshes it at most once.
-/
namespace BrickPipeline

/-- The service that a look-up asks for: by config id if one is given, else by integration. -/
def Service.find? (services : List Service) (integrationId : String) (configId : Option String) :
    Option Service :=
  match configId with
  | some configId => services.find? (·.id == configId)
  | none => services.find? (·.integrationId == integrationId)

/-- The states of a source of services: what it knows, and the state after a refresh. -/
class Locator (L : Type) where
  services : L → List Service
  /-- A refresh that fails leaves the locator as it is. -/
  refresh : L → Except Error L
  /-- Whether a refresh takes time, in which other look-ups go on. -/
  takesTime : Bool

/-- A locator in memory. Remote services become known at the next refresh. -/
structure MemoryLocator where
  cached : List Service
  remote : List Service
  refreshes : Nat
deriving Inhabited

namespace MemoryLocator

def ofServices (services : List Service) : MemoryLocator := ⟨services, [], 0⟩

def addRemote (locator : MemoryLocator) (service : Service) : MemoryLocator :=
  { locator with remote := locator.remote ++ [service] }

def refreshed (locator : MemoryLocator) : MemoryLocator :=
  ⟨locator.cached ++ locator.remote, [], locator.refreshes + 1⟩

instance : Locator MemoryLocator where
  services := cached
  refresh := fun locator => .ok locator.refreshed
  takesTime := false

end MemoryLocator

/-- A locator that answers from a file, as it was when it was last read. -/
structure FileLocator where
  file : FileContent
  known : List Service

namespace FileLocator

/-- The services in a text. A text that holds no list of services answers with its first fault and
the place of it. -/
def parse (text : String) : Except Error (List Service) :=
  match Wire.Shape.fault? (.list Service.shape) text with
  | some fault => .error (.json (fault.message text))
  | none => (Wire.ofText (Wire.list (Service.read .text)) text).mapError .json

def load (file : FileContent) : Except Error (List Service) := do parse (← file.text)

def openFile (file : FileContent) : Except Error FileLocator := return ⟨file, ← load file⟩

def withFile (locator : FileLocator) (file : FileContent) : FileLocator :=
  { locator with file := file }

instance : Locator FileLocator where
  services := known
  refresh := fun locator => return { locator with known := ← load locator.file }
  takesTime := true

end FileLocator

/-- The answer of a locator, its state afterwards, and what was logged on the way. -/
structure Located (L α : Type) where
  log : List Log.Entry
  locator : L
  answer : Except Error α

namespace Locator

variable {L : Type} [Locator L]

def locate (locator : L) (integrationId : String) (configId : Option String) :
    Except Error Service :=
  match Service.find? (services locator) integrationId configId with
  | some service => .ok service
  | none => .error (.integrationNotFound integrationId configId)

def accept (dependency : Dependency) (service : Service) : Except Error Service :=
  if service.integrationId = dependency.integrationId then .ok service
  else .error (.incompatibleService dependency.integrationId
    s!"configuration '{service.id}' belongs to integration '{service.integrationId}'")

def refreshEntry (dependency : Dependency) : Log.Entry :=
  ⟨.debug, "Integration not found, refreshing locator",
    [("integration_id", .string dependency.integrationId)]⟩

/-- Find the service of a dependency among those known; nothing if it is not known. -/
def known? (locator : L) (dependency : Dependency) : Option (Except Error Service) :=
  match locate locator dependency.integrationId dependency.configId with
  | .ok service => some (accept dependency service)
  | .error _ => none

/-- Refresh and find the service of a dependency that was not known. -/
def retry (locator : L) (dependency : Dependency) : L × Except Error Service :=
  match refresh locator with
  | .error fault => (locator, .error fault)
  | .ok locator =>
    (locator, do accept dependency (← locate locator dependency.integrationId dependency.configId))

/-- Find the service of a dependency; refresh once if it is not known. -/
def resolve (locator : L) (dependency : Dependency) : Located L Service :=
  match known? locator dependency with
  | some answer => ⟨[], locator, answer⟩
  | none =>
    let (after, answer) := retry locator dependency
    ⟨[refreshEntry dependency], after, answer⟩

/-- Resolve dependencies in turn, up to the first that fails. -/
def resolveAll (locator : L) : List Dependency → Located L (List BoundService)
  | [] => ⟨[], locator, .ok []⟩
  | dependency :: rest =>
    let first := resolve locator dependency
    match first.answer with
    | .error fault => ⟨first.log, first.locator, .error fault⟩
    | .ok service =>
      let others := resolveAll first.locator rest
      ⟨first.log ++ others.log, others.locator,
        (BoundService.new dependency.outputKey service :: ·) <$> others.answer⟩

/-- The most dependencies of which a failure is noticed out of turn. -/
def noticed : Nat := 30

def firstFailure? (locator : L) (dependencies : List Dependency) : Option Error :=
  dependencies.findSome? fun dependency =>
    match known? locator dependency with
    | some (.error fault) => some fault
    | _ => none

/-- Take up the answers for known dependencies and refresh for the others, in turn. -/
def finishAll (locator : L) :
    List (Dependency × Option (Except Error Service)) → L × Except Error (List BoundService)
  | [] => (locator, .ok [])
  | (dependency, answer) :: rest =>
    let (after, answer) := match answer with
      | some answer => (locator, answer)
      | none => retry locator dependency
    match answer with
    | .error fault => (after, .error fault)
    | .ok service =>
      let (last, others) := finishAll after rest
      (last, (BoundService.new dependency.outputKey service :: ·) <$> others)

/-- A dependency is answered as it was known, or else after a refresh. -/
theorem finishAll_cons (locator : L) (dependency : Dependency)
    (answer : Option (Except Error Service))
    (rest : List (Dependency × Option (Except Error Service))) :
    finishAll locator ((dependency, answer) :: rest) =
      let turn := answer.elim (retry locator dependency) fun answer => (locator, answer)
      match turn.2 with
      | .error fault => (turn.1, .error fault)
      | .ok service =>
        ((finishAll turn.1 rest).1,
          (BoundService.new dependency.outputKey service :: ·) <$> (finishAll turn.1 rest).2) := by
  cases answer <;> rfl

/-- Resolve dependencies side by side: those that are known are answered before any refresh is
over, and a failure among them ends it all unless there are too many to notice it. -/
def resolveTogether (locator : L) (dependencies : List Dependency) :
    Located L (List BoundService) :=
  let log := (dependencies.filter fun d => (known? locator d).isNone).map refreshEntry
  let failure := if dependencies.length ≤ noticed then firstFailure? locator dependencies else none
  match failure with
  | some fault => ⟨log, locator, .error fault⟩
  | none =>
    let (after, answer) := finishAll locator (dependencies.map fun d => (d, known? locator d))
    ⟨log, after, answer⟩

/-- Resolve all dependencies into bindings; a reserved key fails before anything is located. -/
def bindAll (locator : L) (dependencies : List Dependency) : Located L BoundServices :=
  match dependencies.find? (isReserved ·.outputKey) with
  | some dependency => ⟨[], locator, .error (.reservedOutputKey dependency.outputKey)⟩
  | none =>
    let resolved :=
      if takesTime L then resolveTogether locator dependencies
      else resolveAll locator dependencies
    ⟨resolved.log, resolved.locator, do BoundServices.ofEntries (← resolved.answer)⟩

end Locator
end BrickPipeline
