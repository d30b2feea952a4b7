import BrickPipeline.Proofs.History
import BrickPipeline.Proofs.Simulation

/-!
Secrets never reach a run. Two locators whose services differ in secret fields alone answer every
look-up alike, so the bindings that are made for a document are the same, and with them the run.
-/
namespace BrickPipeline

variable {σ L M : Type}

/-- Services that differ at most in the secret fields of their configs, which are maps. -/
structure Service.SameButSecrets (first second : Service) : Prop where
  id : first.id = second.id
  integrationId : first.integrationId = second.integrationId
  label : first.label = second.label
  secretFields : first.secretFields = second.secretFields
  proxy : first.proxy = second.proxy
  sorted : Entries.Sorted first.config
  sortedOther : Entries.Sorted second.config
  config : ∀ field, field ∉ first.secretFields →
    Entries.get? field first.config = Entries.get? field second.config

/-- Both lists have services that differ in secrets alone, position by position. -/
abbrev SameServices (first second : List Service) : Prop :=
  List.Forall₂ Service.SameButSecrets first second

namespace Service.SameButSecrets

variable {first second : Service} (same : first.SameButSecrets second)

include same

/-- What is left without secrets does not depend on them. -/
theorem publicConfig_eq : first.publicConfig = second.publicConfig := by
  unfold publicConfig
  refine Entries.ext_of_sorted (Entries.sorted_sublist same.sorted List.filter_sublist)
    (Entries.sorted_sublist same.sortedOther List.filter_sublist) fun key => ?_
  have hs : ∀ field, second.isSecret field = first.isSecret field := by
    intro field
    rw [isSecret, isSecret, same.secretFields]
  simp only [hs]
  rw [Entries.get?_filter fun field => !first.isSecret field,
    Entries.get?_filter fun field => !first.isSecret field]
  split
  · rename_i hp
    exact same.config key (by simpa [isSecret] using hp)
  · rfl

theorem new_eq (outputKey : String) :
    BoundService.new outputKey first = BoundService.new outputKey second := by
  have hw : first.withoutSecrets = second.withoutSecrets := by
    unfold withoutSecrets
    rw [same.publicConfig_eq]
    cases first
    cases second
    cases same.id
    cases same.integrationId
    cases same.label
    cases same.secretFields
    cases same.proxy
    rfl
  rw [BoundService.new, BoundService.new, hw, same.publicConfig_eq]

end Service.SameButSecrets

/-- What two locators have in common that differ in secrets alone: their services are the same but
for secrets, now and after every refresh, and a refresh takes its time, fails or succeeds alike. -/
structure Locator.SameButSecrets [Locator L] [Locator M] (rel : L → M → Prop) : Prop where
  takesTime : takesTime L = takesTime M
  services : ∀ first second, rel first second → SameServices (services first) (services second)
  refresh : ∀ first second, rel first second → SameAnswer rel (refresh first) (refresh second)

theorem Service.interchangeable_sameButSecrets : Interchangeable SameButSecrets where
  id := fun _ _ same => same.id
  integrationId := fun _ _ same => same.integrationId
  new := fun _ _ same => same.new_eq

namespace Locator

variable [Locator L] [Locator M] {rel : L → M → Prop}

theorem SameButSecrets.simulates (same : SameButSecrets rel) :
    Simulates Service.SameButSecrets rel where
  interchangeable := Service.interchangeable_sameButSecrets
  takesTime := same.takesTime
  services := same.services
  refresh := same.refresh

/-- The same bindings are made for a document, or the same failure is met, and the same is logged on
the way. -/
theorem bindAll_same (same : SameButSecrets rel) {locator : L} {other : M}
    (h : rel locator other) (dependencies : List Dependency) :
    SameLocated rel Eq (bindAll locator dependencies) (bindAll other dependencies) :=
  same.simulates.bindAll h dependencies

end Locator

/-- Memory locators that differ in secrets alone, in what they know and in what they do not yet. -/
structure MemoryLocator.Same (first second : MemoryLocator) : Prop where
  cached : SameServices first.cached second.cached
  remote : SameServices first.remote second.remote

theorem MemoryLocator.sameButSecrets : Locator.SameButSecrets MemoryLocator.Same where
  takesTime := rfl
  services := fun _ _ same => same.cached
  refresh := fun _ _ same => .ok ⟨List.rel_append same.cached same.remote, .nil⟩

/-- File locators that differ in secrets alone, in what they know and in what their files hold. -/
structure FileLocator.Same (first second : FileLocator) : Prop where
  known : SameServices first.known second.known
  file : SameAnswer SameServices (load first.file) (load second.file)

theorem FileLocator.sameButSecrets : Locator.SameButSecrets FileLocator.Same where
  takesTime := rfl
  services := fun _ _ same => same.known
  refresh := fun first second same => by
    have hf := same.file
    show SameAnswer Same (load first.file >>= fun known => .ok { first with known })
      (load second.file >>= fun known => .ok { second with known })
    generalize hload : load first.file = services, hother : load second.file = others at hf
    cases hf with
    | error failure => exact .error failure
    | ok h =>
      refine .ok ⟨h, ?_⟩
      show SameAnswer SameServices (load first.file) (load second.file)
      rw [hload, hother]
      exact .ok h

/-- Secrets never reach a run. If two locators differ in secrets alone, the same services are bound
for a document, or binding them fails alike, and running the document does the same: it leaves the
same events and the same state behind and gives the same answer, whatever the version, the input
and the host. -/
theorem Host.runDocument_secrets [Locator L] [Locator M] {rel : L → M → Prop}
    (same : Locator.SameButSecrets rel) {locator : L} {other : M} (related : rel locator other)
    (host : Host σ) (depth : Nat) (document : Document) (input : Json) :
    (Locator.bindAll locator document.dependencies).answer =
        (Locator.bindAll other document.dependencies).answer ∧
      (host.runDocument depth document input locator).2 =
        (host.runDocument depth document input other).2 := by
  obtain ⟨log, -, answer⟩ := Locator.bindAll_same same related document.dependencies
  refine ⟨answer, ?_⟩
  unfold runDocument
  dsimp only
  rw [log, answer]

namespace Sample

/-- A locator of one service, whose token is a secret. -/
def locator (config : List (String × Json)) : MemoryLocator :=
  .ofServices [⟨"main", "example", none, Entries.ofList config, ["token"], false⟩]

def withToken : MemoryLocator := locator [("url", .string "here"), ("token", .string "secret")]

def withoutToken : MemoryLocator := locator [("url", .string "here")]

/-- A document of the first version, whose step gets to see the record of the service. -/
def document : Document :=
  ⟨.v1, none, [(Step.new (Brick.identity : Brick Unit).id).withArg "api" (.str "@api")],
    [⟨"example", "api", none⟩], none, .null⟩

theorem same_token : MemoryLocator.Same withToken withoutToken where
  cached := by
    have same : Service.SameButSecrets
        ⟨"main", "example", none,
          Entries.ofList [("url", .string "here"), ("token", .string "secret")], ["token"], false⟩
        ⟨"main", "example", none, Entries.ofList [("url", .string "here")], ["token"], false⟩ :=
      { id := rfl
        integrationId := rfl
        label := rfl
        secretFields := rfl
        proxy := rfl
        sorted := Entries.sorted_ofList _
        sortedOther := Entries.sorted_ofList _
        config := fun field hf => Entries.get?_insert_of_ne (by simpa using hf) _ _ }
    exact .cons same .nil
  remote := .nil

end Sample

theorem Host.runDocument_secrets_sample :
    Sample.withToken ≠ Sample.withoutToken ∧
      (Locator.bindAll Sample.withToken Sample.document.dependencies).answer =
        (Locator.bindAll Sample.withoutToken Sample.document.dependencies).answer ∧
      (Sample.host.runDocument 1 Sample.document .null Sample.withToken).2 =
        (Sample.host.runDocument 1 Sample.document .null Sample.withoutToken).2 :=
  ⟨fun h => absurd (congrArg (fun l => l.cached.map (·.config.length)) h) (by decide),
    Host.runDocument_secrets MemoryLocator.sameButSecrets Sample.same_token Sample.host 1
      Sample.document .null⟩

end BrickPipeline
