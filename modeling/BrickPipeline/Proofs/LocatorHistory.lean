import BrickPipeline.Proofs.Matching

/-!
What becomes of a locator in memory in the course of time. Whatever it is asked, it loses no
service, and what it knows only grows at its end, so what was found once is found ever after.
-/
namespace BrickPipeline

namespace Locator

/-- What a locator can be asked. -/
inductive Request where
  | refresh
  | locate (integrationId : String) (configId : Option String)
  | resolve (dependency : Dependency)
  | bindAll (dependencies : List Dependency)

variable {L : Type} [Locator L]

/-- The locator after it has answered a request. -/
def after (locator : L) : Request → L
  | .refresh =>
    match Locator.refresh locator with
    | .ok refreshed => refreshed
    | .error _ => locator
  | .locate _ _ => locator
  | .resolve dependency => (resolve locator dependency).locator
  | .bindAll dependencies => (bindAll locator dependencies).locator

/-- All that a request can do to a locator is to refresh it. -/
theorem Refreshed.after (locator : L) (request : Request) :
    Refreshed locator (after locator request) := by
  cases request with
  | refresh =>
    cases h : Locator.refresh locator with
    | ok refreshed =>
      have hafter : Locator.after locator .refresh = refreshed := by rw [Locator.after, h]
      rw [hafter]
      exact .again .start h
    | error fault =>
      have hafter : Locator.after locator .refresh = locator := by rw [Locator.after, h]
      rw [hafter]
      exact .start
  | locate integrationId configId => exact .start
  | resolve dependency => exact Refreshed.start.resolve dependency
  | bindAll dependencies => exact Refreshed.start.bindAll dependencies

end Locator

namespace MemoryLocator

open Locator (Refreshed locate resolve)

/-- What can happen to a locator in memory. -/
inductive Event where
  | arrival (service : Service)
  | asked (request : Locator.Request)

def next (locator : MemoryLocator) : Event → MemoryLocator
  | .arrival service => locator.addRemote service
  | .asked request => Locator.after locator request

/-- The locator after a course of events. -/
def run (locator : MemoryLocator) (events : List Event) : MemoryLocator :=
  events.foldl next locator

/-- The services that are added in a course of events, in order. -/
def arrivals (events : List Event) : List Service :=
  events.filterMap fun
    | .arrival service => some service
    | .asked _ => none

/-- Some services were added to a locator behind all that it had, and what it knew it still knows,
at the same place. -/
structure GrowsBy (services : List Service) (before after : MemoryLocator) : Prop where
  stock : after.stock = before.stock ++ services
  cached : before.cached <+: after.cached

namespace GrowsBy

theorem refl (locator : MemoryLocator) : GrowsBy [] locator locator :=
  ⟨(List.append_nil _).symm, List.prefix_rfl⟩

theorem trans {services more : List Service} {first second third : MemoryLocator}
    (start : GrowsBy services first second) (rest : GrowsBy more second third) :
    GrowsBy (services ++ more) first third where
  stock := by rw [rest.stock, start.stock, List.append_assoc]
  cached := start.cached.trans rest.cached

theorem refreshed (locator : MemoryLocator) : GrowsBy [] locator locator.refreshed where
  stock := by rw [stock_refreshed, List.append_nil]
  cached := List.prefix_append _ _

theorem of_refreshed {before after : MemoryLocator} (h : Refreshed before after) :
    GrowsBy [] before after := by
  induction h with
  | start => exact refl before
  | @again middle after _ made ih =>
    have hafter : after = middle.refreshed := (Except.ok.inj made).symm
    rw [hafter]
    exact ih.trans (refreshed middle)

theorem addRemote (locator : MemoryLocator) (service : Service) :
    GrowsBy [service] locator (locator.addRemote service) where
  stock := (List.append_assoc _ _ _).symm
  cached := List.prefix_rfl

/-- An event adds a service at the end, or none. -/
theorem next (locator : MemoryLocator) (event : Event) :
    GrowsBy (arrivals [event]) locator (locator.next event) := by
  cases event with
  | arrival service => exact addRemote locator service
  | asked request => exact of_refreshed (Refreshed.after locator request)

theorem run (locator : MemoryLocator) (events : List Event) :
    GrowsBy (arrivals events) locator (locator.run events) := by
  induction events generalizing locator with
  | nil => exact refl locator
  | cons event rest ih =>
    have hsplit : arrivals (event :: rest) = arrivals [event] ++ arrivals rest :=
      List.filterMap_append (l := [event])
    rw [hsplit]
    exact (next locator event).trans (ih (locator.next event))

variable {services : List Service} {before after : MemoryLocator}

theorem locate_eq_ok (grows : GrowsBy services before after) {integrationId : String}
    {configId : Option String} {service : Service}
    (h : locate before integrationId configId = .ok service) :
    locate after integrationId configId = .ok service := by
  have hbefore : Service.find? before.cached integrationId configId = some service := by
    unfold locate at h
    split at h
    · rename_i found hfound
      cases h
      exact hfound
    · cases h
  obtain ⟨more, hmore⟩ := grows.cached
  have hafter : Service.find? after.cached integrationId configId = some service := by
    rw [← hmore, Service.find?_append, hbefore, Option.some_or]
  have hservices : Service.find? (Locator.services after) integrationId configId = some service :=
    hafter
  rw [locate, hservices]

theorem resolve_eq_ok (grows : GrowsBy services before after) {dependency : Dependency}
    {service : Service} (h : (resolve before dependency).answer = .ok service) :
    (resolve after dependency).answer = .ok service := by
  obtain ⟨hfirst, integration⟩ := answer_resolve_eq_ok_iff.1 h
  refine answer_resolve_eq_ok_iff.2 ⟨?_, integration⟩
  rw [grows.stock, List.find?_append, hfirst, Option.some_or]

end GrowsBy

/-- A dependency is not found exactly if no service of all is asked for. -/
theorem exists_notFound_iff {locator : MemoryLocator} {dependency : Dependency} :
    (∃ integrationId configId, (resolve locator dependency).answer =
        .error (.integrationNotFound integrationId configId)) ↔
      ∀ service ∈ locator.stock, ¬ dependency.Asks service := by
  rw [answer_resolve]
  cases h : locator.stock.find? (dependency.Asks ·) with
  | none =>
    have hnone := List.find?_eq_none.1 h
    exact ⟨fun _ service hm => by simpa using hnone service hm, fun _ => ⟨_, _, rfl⟩⟩
  | some service =>
    obtain ⟨hm, asks⟩ := Service.mem_and_asks_of_find? h
    refine ⟨?_, fun hnone => absurd asks (hnone service hm)⟩
    rintro ⟨integrationId, configId, hfault⟩
    rw [Option.elim_some, Locator.accept] at hfault
    split at hfault <;> cases hfault

/-- The locator is refreshed once if the first look-up finds nothing, and else not. -/
theorem locator_resolve (locator : MemoryLocator) (dependency : Dependency) :
    (∃ service, locate locator dependency.integrationId dependency.configId = .ok service) ∧
        (resolve locator dependency).locator = locator ∨
      locate locator dependency.integrationId dependency.configId =
          .error (.integrationNotFound dependency.integrationId dependency.configId) ∧
        (resolve locator dependency).locator = locator.refreshed := by
  have hservices : Locator.services locator = locator.cached := rfl
  rw [locate, Service.find?_eq, hservices]
  cases h : locator.cached.find? (dependency.Asks ·) with
  | some service =>
    rw [resolve_of_known h]
    exact .inl ⟨⟨service, rfl⟩, rfl⟩
  | none =>
    rw [resolve_of_unknown h]
    exact .inr ⟨rfl, rfl⟩

/-- The known services and behind them the remote ones are always those at the start and behind
them those that were added, and what is known only grows at its end. So what was once found, by a
look-up or for a dependency, is found in every later state; a dependency is not found only if no
service of all is asked for; and it refreshes the locator once or not at all, and only after the
first look-up has found nothing. -/
theorem history_lossless (start : MemoryLocator) (earlier later : List Event) :
    let before := start.run earlier
    let after := before.run later
    let all := start.cached ++ start.remote ++ arrivals (earlier ++ later)
    after.cached ++ after.remote = all ∧
      before.cached <+: after.cached ∧
      (∀ integrationId configId service,
        locate before integrationId configId = .ok service →
          locate after integrationId configId = .ok service) ∧
      ∀ dependency,
        (∀ service, (resolve before dependency).answer = .ok service →
          (resolve after dependency).answer = .ok service) ∧
        ((∃ integrationId configId, (resolve after dependency).answer =
            .error (.integrationNotFound integrationId configId)) ↔
          ∀ service ∈ all, ¬ dependency.Asks service) ∧
        ((∃ service, locate after dependency.integrationId dependency.configId = .ok service) ∧
            (resolve after dependency).locator = after ∨
          locate after dependency.integrationId dependency.configId =
              .error (.integrationNotFound dependency.integrationId dependency.configId) ∧
            (resolve after dependency).locator = after.refreshed) := by
  intro before after all
  have grows : GrowsBy (arrivals later) before after := .run before later
  have hrun : after = start.run (earlier ++ later) := List.foldl_append.symm
  have hstock : after.stock = all := by
    rw [hrun]
    exact (GrowsBy.run start (earlier ++ later)).stock
  refine ⟨hstock, grows.cached, fun integrationId configId service => grows.locate_eq_ok,
    fun dependency => ⟨fun service => grows.resolve_eq_ok, ?_, locator_resolve after dependency⟩⟩
  rw [← hstock]
  exact exists_notFound_iff

theorem history_lossless_sample :
    let sheets := Sample.configured "cfg-1" "google/sheet"
    let start := (ofServices []).addRemote sheets
    let dependency : Dependency := ⟨"google/sheet", "sheets", none⟩
    let before := start.run [.asked (.resolve dependency)]
    let after := before.run [.arrival (Sample.configured "cfg-2" "google/sheet"), .asked .refresh]
    locate before "google/sheet" none = .ok sheets ∧
      locate after "google/sheet" none = .ok sheets ∧
      (resolve start dependency).answer = .ok sheets ∧
      (resolve after dependency).answer = .ok sheets := by
  intro sheets start dependency before after
  have hlocated : locate before "google/sheet" none = .ok sheets := rfl
  have hresolved : (resolve before dependency).answer = .ok sheets := rfl
  obtain ⟨-, -, hkept, hdependencies⟩ := history_lossless start [.asked (.resolve dependency)]
    [.arrival (Sample.configured "cfg-2" "google/sheet"), .asked .refresh]
  exact ⟨hlocated, hkept _ _ _ hlocated, rfl, (hdependencies dependency).1 sheets hresolved⟩

end MemoryLocator
end BrickPipeline
