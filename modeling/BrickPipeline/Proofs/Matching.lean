import BrickPipeline.Proofs.Resolution

/-!
Which service a dependency comes to. Of all the services that a locator in memory has, the known
before the remote, it is the first that the dependency asks for, if that one fits it. So a
configuration of another integration hides those behind it that have the same id.
-/
namespace BrickPipeline

namespace Dependency

/-- A look-up goes by the configuration if one is named, else by the integration. -/
def Asks (dependency : Dependency) (service : Service) : Prop :=
  match dependency.configId with
  | some configId => service.id = configId
  | none => service.integrationId = dependency.integrationId

instance (dependency : Dependency) (service : Service) : Decidable (dependency.Asks service) :=
  match h : dependency.configId with
  | some configId => decidable_of_iff (service.id = configId) (by rw [Asks, h])
  | none =>
    decidable_of_iff (service.integrationId = dependency.integrationId) (by rw [Asks, h])

/-- A service of the integration, and of the configuration if one is named. -/
structure Fits (dependency : Dependency) (service : Service) : Prop where
  integration : service.integrationId = dependency.integrationId
  config : ∀ configId, dependency.configId = some configId → service.id = configId

variable {dependency : Dependency} {service : Service}

theorem Fits.asks (fits : dependency.Fits service) : dependency.Asks service := by
  unfold Asks
  split
  · rename_i configId hconfig
    exact fits.config configId hconfig
  · exact fits.integration

theorem Asks.fits (asks : dependency.Asks service)
    (integration : service.integrationId = dependency.integrationId) : dependency.Fits service := by
  refine ⟨integration, fun configId hconfig => ?_⟩
  rw [Asks, hconfig] at asks
  exact asks

/-- What is asked for has the integration, unless it is found by the configuration. -/
theorem Asks.fits_of_unmasked (asks : dependency.Asks service)
    (unmasked : dependency.configId = some service.id →
      service.integrationId = dependency.integrationId) : dependency.Fits service := by
  refine asks.fits ?_
  cases hconfig : dependency.configId with
  | none =>
    rw [Asks, hconfig] at asks
    exact asks
  | some configId =>
    rw [Asks, hconfig] at asks
    exact unmasked (hconfig.trans (congrArg some asks.symm))

end Dependency

/-- A look-up for a dependency finds the first service that it asks for. -/
theorem Service.find?_eq (services : List Service) (dependency : Dependency) :
    find? services dependency.integrationId dependency.configId =
      services.find? (dependency.Asks ·) := by
  unfold find?
  cases hconfig : dependency.configId with
  | none =>
    refine congrArg (List.find? · services) (funext fun service => ?_)
    simp only [Dependency.Asks, hconfig]
    exact beq_eq_decide _ _
  | some configId =>
    refine congrArg (List.find? · services) (funext fun service => ?_)
    simp only [Dependency.Asks, hconfig]
    exact beq_eq_decide _ _

theorem Service.mem_and_asks_of_find? {services : List Service} {dependency : Dependency}
    {service : Service} (h : services.find? (dependency.Asks ·) = some service) :
    service ∈ services ∧ dependency.Asks service :=
  ⟨List.mem_of_find?_eq_some h, by simpa using List.find?_some h⟩

theorem Locator.accept_eq_ok_iff {dependency : Dependency} {service found : Service} :
    accept dependency service = .ok found ↔
      service.integrationId = dependency.integrationId ∧ service = found := by
  unfold accept
  split
  · rename_i h
    simp [h]
  · rename_i h
    simp [h]

namespace MemoryLocator

open Locator (resolve known? accept)

/-- All the services of a locator, those that are known first. -/
def stock (locator : MemoryLocator) : List Service := locator.cached ++ locator.remote

@[simp] theorem stock_refreshed (locator : MemoryLocator) :
    locator.refreshed.stock = locator.stock := List.append_nil _

variable {locator : MemoryLocator} {dependency : Dependency}

theorem resolve_of_known {service : Service}
    (h : locator.cached.find? (dependency.Asks ·) = some service) :
    resolve locator dependency = ⟨[], locator, accept dependency service⟩ := by
  have hfound := (Service.find?_eq locator.cached dependency).trans h
  exact Locator.resolve_of_known (Locator.known?_of_found hfound)

theorem resolve_of_unknown (h : locator.cached.find? (dependency.Asks ·) = none) :
    resolve locator dependency =
      ⟨[Locator.refreshEntry dependency], locator.refreshed,
        (locator.stock.find? (dependency.Asks ·)).elim
          (.error (.integrationNotFound dependency.integrationId dependency.configId))
          (accept dependency)⟩ := by
  have hnone := (Service.find?_eq locator.cached dependency).trans h
  have hunknown : known? locator dependency = none := Locator.known?_of_not_found hnone
  have hrefresh : Locator.refresh locator = .ok locator.refreshed := rfl
  have hservices : Locator.services locator.refreshed = locator.stock := rfl
  rw [Locator.resolve_of_refresh hunknown hrefresh, Service.find?_eq, hservices]

/-- A dependency comes to the first service of all that it asks for, if that one is accepted. -/
theorem answer_resolve (locator : MemoryLocator) (dependency : Dependency) :
    (resolve locator dependency).answer = (locator.stock.find? (dependency.Asks ·)).elim
      (.error (.integrationNotFound dependency.integrationId dependency.configId))
      (accept dependency) := by
  cases h : locator.cached.find? (dependency.Asks ·) with
  | some service =>
    rw [resolve_of_known h, stock, List.find?_append, h]
    rfl
  | none => rw [resolve_of_unknown h]

theorem answer_resolve_eq_ok_iff {service : Service} :
    (resolve locator dependency).answer = .ok service ↔
      locator.stock.find? (dependency.Asks ·) = some service ∧
        service.integrationId = dependency.integrationId := by
  rw [answer_resolve]
  cases h : locator.stock.find? (dependency.Asks ·) with
  | none => simp
  | some first =>
    rw [Option.elim_some, Locator.accept_eq_ok_iff, Option.some.injEq]
    constructor
    · rintro ⟨integration, rfl⟩
      exact ⟨rfl, integration⟩
    · rintro ⟨rfl, integration⟩
      exact ⟨integration, rfl⟩

theorem mem_and_fits_of_resolve {service : Service}
    (h : (resolve locator dependency).answer = .ok service) :
    service ∈ locator.stock ∧ dependency.Fits service := by
  obtain ⟨hfirst, integration⟩ := answer_resolve_eq_ok_iff.1 h
  obtain ⟨hm, asks⟩ := Service.mem_and_asks_of_find? hfirst
  exact ⟨hm, asks.fits integration⟩

/-- A service that fits is found unless one before it has its configuration id and another
integration; then it or one before it is what the dependency comes to. -/
theorem exists_resolve_of_unmasked {earlier later : List Service} {service : Service}
    (hstock : locator.stock = earlier ++ service :: later) (fits : dependency.Fits service)
    (unmasked : ∀ other ∈ earlier, dependency.configId = some other.id →
      other.integrationId = dependency.integrationId) :
    ∃ found, (resolve locator dependency).answer = .ok found := by
  have hstart : (earlier ++ service :: later).find? (dependency.Asks ·) =
      (earlier.find? (dependency.Asks ·)).or (some service) := by
    have hasked : (service :: later).find? (dependency.Asks ·) = some service :=
      List.find?_cons_of_pos (by simpa using fits.asks)
    rw [List.find?_append, hasked]
  cases hearlier : earlier.find? (dependency.Asks ·) with
  | none =>
    rw [hearlier, Option.none_or] at hstart
    exact ⟨service, answer_resolve_eq_ok_iff.2 ⟨hstock ▸ hstart, fits.integration⟩⟩
  | some other =>
    rw [hearlier, Option.some_or] at hstart
    obtain ⟨hm, asks⟩ := Service.mem_and_asks_of_find? hearlier
    have found : dependency.Fits other := asks.fits_of_unmasked (unmasked other hm)
    exact ⟨other, answer_resolve_eq_ok_iff.2 ⟨hstock ▸ hstart, found.integration⟩⟩

theorem exists_unmasked_of_resolve {service : Service}
    (h : (resolve locator dependency).answer = .ok service) :
    ∃ earlier later, locator.stock = earlier ++ service :: later ∧
      ∀ other ∈ earlier, dependency.configId = some other.id →
        other.integrationId = dependency.integrationId := by
  obtain ⟨hfirst, -⟩ := answer_resolve_eq_ok_iff.1 h
  obtain ⟨-, earlier, later, hstock, hearlier⟩ := List.find?_eq_some_iff_append.1 hfirst
  refine ⟨earlier, later, hstock, fun other hm hconfig => ?_⟩
  have unasked : ¬ dependency.Asks other := by simpa using hearlier other hm
  refine absurd ?_ unasked
  rw [Dependency.Asks, hconfig]

/-- Resolving succeeds exactly if some known or remote service fits and none before it has the
configuration id that is named and another integration. What it comes to is a service that fits. -/
theorem resolve_fits (locator : MemoryLocator) (dependency : Dependency) :
    ((∃ service, (resolve locator dependency).answer = .ok service) ↔
        ∃ earlier service later,
          locator.cached ++ locator.remote = earlier ++ service :: later ∧
            dependency.Fits service ∧
            ∀ other ∈ earlier, dependency.configId = some other.id →
              other.integrationId = dependency.integrationId) ∧
      ∀ service, (resolve locator dependency).answer = .ok service →
        service ∈ locator.cached ++ locator.remote ∧ dependency.Fits service := by
  refine ⟨⟨?_, ?_⟩, fun service => mem_and_fits_of_resolve⟩
  · rintro ⟨service, h⟩
    obtain ⟨earlier, later, hstock, unmasked⟩ := exists_unmasked_of_resolve h
    exact ⟨earlier, service, later, hstock, (mem_and_fits_of_resolve h).2, unmasked⟩
  · rintro ⟨earlier, service, later, hstock, fits, unmasked⟩
    exact exists_resolve_of_unmasked hstock fits unmasked

end MemoryLocator

namespace Sample

/-- A configuration without content. -/
def configured (id integrationId : String) : Service := ⟨id, integrationId, none, [], [], false⟩

end Sample

namespace MemoryLocator

theorem resolve_fits_sample :
    let locator : MemoryLocator :=
      ⟨[Sample.configured "cfg-1" "slack/webhook"], [Sample.configured "cfg-2" "google/sheet"], 0⟩
    let dependency : Dependency := ⟨"google/sheet", "sheets", some "cfg-2"⟩
    (∃ service, (Locator.resolve locator dependency).answer = .ok service) ∧
      ∀ service, (Locator.resolve locator dependency).answer = .ok service →
        service ∈ locator.cached ++ locator.remote ∧ dependency.Fits service := by
  intro locator dependency
  obtain ⟨hfound, hfits⟩ := resolve_fits locator dependency
  refine ⟨hfound.2 ⟨[Sample.configured "cfg-1" "slack/webhook"],
    Sample.configured "cfg-2" "google/sheet", [], rfl, ⟨rfl, ?_⟩, ?_⟩, hfits⟩
  · rintro configId ⟨⟩
    rfl
  · intro other hm hconfig
    obtain rfl := List.mem_singleton.1 hm
    exact absurd hconfig (by decide)

/-- A service that fits is not found behind one of another integration that has the same id. -/
theorem hidden_service_not_found :
    let wanted := Sample.configured "cfg" "google/sheet"
    let locator : MemoryLocator := .ofServices [Sample.configured "cfg" "slack/webhook", wanted]
    let dependency : Dependency := ⟨"google/sheet", "sheets", some "cfg"⟩
    wanted ∈ locator.cached ++ locator.remote ∧ dependency.Fits wanted ∧
      ¬ ∃ service, (Locator.resolve locator dependency).answer = .ok service := by
  intro wanted locator dependency
  refine ⟨by simp [locator, ofServices], ⟨rfl, ?_⟩, ?_⟩
  · rintro configId ⟨⟩
    rfl
  · rintro ⟨service, h⟩
    have hanswer : (Locator.resolve locator dependency).answer =
        .error (.incompatibleService "google/sheet"
          "configuration 'cfg' belongs to integration 'slack/webhook'") := rfl
    rw [hanswer] at h
    cases h

end MemoryLocator
end BrickPipeline
