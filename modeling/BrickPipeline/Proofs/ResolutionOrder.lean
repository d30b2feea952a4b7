import BrickPipeline.Proofs.Matching

/-!
The order of dependencies. Resolving one of them may refresh the locator that all share, but each
comes to the same service in any order, and the locator is refreshed once if any of them needs it.
-/
namespace BrickPipeline

namespace BoundServices

/-- Entries with keys of their own are bound alike in any order. -/
theorem eq_of_perm {entries others : List BoundService} {services bound : BoundServices}
    (perm : entries.Perm others) (nodup : (entries.map (bindingKey ·.outputKey)).Nodup)
    (h : ofEntries entries = .ok services) (hothers : ofEntries others = .ok bound) :
    bound = services := by
  have hkeys : Entries.keys (entries.map fun entry => (bindingKey entry.outputKey, entry)) =
      entries.map (bindingKey ·.outputKey) := by
    rw [Entries.keys, List.map_map]
    rfl
  have hentries : services.entries = bound.entries := by
    rw [entries_of_ofEntries h, entries_of_ofEntries hothers]
    exact Entries.ofList_perm (perm.map _) (hkeys ▸ nodup)
  exact congrArg BoundServices.mk hentries.symm

end BoundServices

namespace Locator

variable {L : Type} [Locator L] {locator : L} {dependencies : List Dependency}

/-- A reserved key ends it all before anything is located. -/
theorem bindAll_of_reserved {earlier later : List Dependency} {dependency : Dependency}
    (reserved : isReserved dependency.outputKey = true)
    (first : ∀ other ∈ earlier, isReserved other.outputKey = false) :
    bindAll locator (earlier ++ dependency :: later) =
      ⟨[], locator, .error (.reservedOutputKey dependency.outputKey)⟩ := by
  have hfind : (earlier ++ dependency :: later).find? (isReserved ·.outputKey) =
      some dependency := by
    refine List.find?_eq_some_iff_append.2 ⟨reserved, earlier, later, rfl, fun other hm => ?_⟩
    simp [first other hm]
  rw [bindAll, hfind]

theorem exists_first_reserved
    (h : ∃ dependency ∈ dependencies, isReserved dependency.outputKey = true) :
    ∃ earlier dependency later, dependencies = earlier ++ dependency :: later ∧
      isReserved dependency.outputKey = true ∧
      ∀ other ∈ earlier, isReserved other.outputKey = false := by
  cases hfind : dependencies.find? (isReserved ·.outputKey) with
  | none =>
    obtain ⟨dependency, hm, reserved⟩ := h
    exact absurd reserved (List.find?_eq_none.1 hfind dependency hm)
  | some dependency =>
    obtain ⟨reserved, earlier, later, hsplit, hearlier⟩ := List.find?_eq_some_iff_append.1 hfind
    exact ⟨earlier, dependency, later, hsplit, reserved,
      fun other hm => by simpa using hearlier other hm⟩

theorem unreserved_of_bindAll {services : BoundServices}
    (h : (bindAll locator dependencies).answer = .ok services) :
    ∀ dependency ∈ dependencies, isReserved dependency.outputKey = false := by
  intro dependency hm
  refine Bool.eq_false_iff.2 fun hreserved => ?_
  obtain ⟨earlier, first, later, rfl, reserved, hfirst⟩ :=
    exists_first_reserved ⟨dependency, hm, hreserved⟩
  rw [bindAll_of_reserved reserved hfirst] at h
  cases h

/-- Without reserved keys, the services that dependencies come to in turn are bound. -/
theorem bindAll_of_unreserved (inTurn : takesTime L = false) (locator : L)
    (unreserved : ∀ dependency ∈ dependencies, isReserved dependency.outputKey = false) :
    bindAll locator dependencies =
      ⟨(resolveAll locator dependencies).log, (resolveAll locator dependencies).locator,
        (resolveAll locator dependencies).answer.bind BoundServices.ofEntries⟩ := by
  have hfind : dependencies.find? (isReserved ·.outputKey) = none :=
    List.find?_eq_none.2 fun dependency hm => by simp [unreserved dependency hm]
  rw [bindAll, hfind, inTurn]
  rfl

theorem resolve_of_bindAll [Steady L] {services : BoundServices}
    (h : (bindAll locator dependencies).answer = .ok services) :
    ∀ dependency ∈ dependencies, ∃ service, (resolve locator dependency).answer = .ok service := by
  obtain ⟨entries, -, binds⟩ := binds_of_bindAll h
  intro dependency hm
  obtain ⟨index, hindex, rfl⟩ := List.getElem_of_mem hm
  obtain ⟨service, located, -⟩ := binds.get hindex (binds.length_eq ▸ hindex)
  exact ⟨service, located.alone inferInstance⟩

/-- Dependencies that are resolved in turn come each to what it would come to by itself. -/
theorem answer_resolve_resolveAll [Steady L] (inTurn : takesTime L = false) (locator : L)
    (dependencies : List Dependency) (dependency : Dependency) :
    (resolve (resolveAll locator dependencies).locator dependency).answer =
      (resolve locator dependency).answer := by
  induction dependencies generalizing locator with
  | nil => rfl
  | cons first rest ih =>
    have hfirst := answer_resolve_resolve inTurn locator first dependency
    unfold resolveAll
    dsimp only
    split
    · exact hfirst
    · exact (ih (resolve locator first).locator).trans hfirst

theorem resolveAll_cons {dependency : Dependency} {service : Service}
    (h : (resolve locator dependency).answer = .ok service) (rest : List Dependency) :
    resolveAll locator (dependency :: rest) =
      let others := resolveAll (resolve locator dependency).locator rest
      ⟨(resolve locator dependency).log ++ others.log, others.locator,
        (BoundService.new dependency.outputKey service :: ·) <$> others.answer⟩ := by
  simp only [resolveAll, h]

theorem answer_resolveAll [Steady L] (inTurn : takesTime L = false) (locator : L)
    {serviceOf : Dependency → Service}
    (h : ∀ dependency ∈ dependencies,
      (resolve locator dependency).answer = .ok (serviceOf dependency)) :
    (resolveAll locator dependencies).answer = .ok (dependencies.map fun dependency =>
      BoundService.new dependency.outputKey (serviceOf dependency)) := by
  induction dependencies generalizing locator with
  | nil => rfl
  | cons first rest ih =>
    obtain ⟨hfirst, hrest⟩ := List.forall_mem_cons.1 h
    have hothers := ih (resolve locator first).locator fun other hm =>
      (answer_resolve_resolve inTurn locator first other).trans (hrest other hm)
    rw [resolveAll_cons hfirst rest]
    dsimp only
    rw [hothers]
    rfl

end Locator

namespace MemoryLocator

open Locator (resolve resolveAll bindAll)

/-- A service that fits a dependency is known. -/
def Knows (locator : MemoryLocator) (dependency : Dependency) : Prop :=
  ∃ service ∈ locator.cached, dependency.Fits service

variable {locator : MemoryLocator} {dependency : Dependency} {service : Service}

theorem locator_resolve_of_knows (knows : locator.Knows dependency) :
    (resolve locator dependency).locator = locator := by
  obtain ⟨service, hm, fits⟩ := knows
  cases h : locator.cached.find? (dependency.Asks ·) with
  | none =>
    have unasked : ¬ dependency.Asks service := by simpa using List.find?_eq_none.1 h service hm
    exact absurd fits.asks unasked
  | some found => rw [resolve_of_known h]

/-- A dependency comes to a known service only if one that fits it is known. -/
theorem locator_resolve_of_not_knows (h : (resolve locator dependency).answer = .ok service)
    (unknown : ¬ locator.Knows dependency) :
    (resolve locator dependency).locator = locator.refreshed := by
  cases hfound : locator.cached.find? (dependency.Asks ·) with
  | none => rw [resolve_of_unknown hfound]
  | some found =>
    rw [resolve_of_known hfound] at h
    obtain ⟨integration, rfl⟩ := Locator.accept_eq_ok_iff.1 h
    obtain ⟨hm, asks⟩ := Service.mem_and_asks_of_find? hfound
    exact absurd ⟨found, hm, asks.fits integration⟩ unknown

theorem knows_refreshed (h : (resolve locator dependency).answer = .ok service) :
    locator.refreshed.Knows dependency :=
  ⟨service, mem_and_fits_of_resolve h⟩

theorem locator_resolveAll_of_knows {dependencies : List Dependency}
    (h : ∀ dependency ∈ dependencies, ∃ service,
      (resolve locator dependency).answer = .ok service)
    (knows : ∀ dependency ∈ dependencies, locator.Knows dependency) :
    (resolveAll locator dependencies).locator = locator := by
  induction dependencies with
  | nil => rfl
  | cons first rest ih =>
    obtain ⟨⟨service, hfirst⟩, hrest⟩ := List.forall_mem_cons.1 h
    obtain ⟨known, others⟩ := List.forall_mem_cons.1 knows
    rw [Locator.resolveAll_cons hfirst rest, locator_resolve_of_knows known]
    exact ih hrest others

/-- The first dependency that is not known refreshes the locator, and then all others are known. -/
theorem locator_resolveAll_of_not_knows {dependencies : List Dependency}
    (h : ∀ dependency ∈ dependencies, ∃ service,
      (resolve locator dependency).answer = .ok service)
    (unknown : ∃ dependency ∈ dependencies, ¬ locator.Knows dependency) :
    (resolveAll locator dependencies).locator = locator.refreshed := by
  induction dependencies with
  | nil =>
    obtain ⟨dependency, hm, -⟩ := unknown
    cases hm
  | cons first rest ih =>
    obtain ⟨⟨service, hfirst⟩, hrest⟩ := List.forall_mem_cons.1 h
    rw [Locator.resolveAll_cons hfirst rest]
    by_cases known : locator.Knows first
    · have hlater : ∃ dependency ∈ rest, ¬ locator.Knows dependency := by
        obtain ⟨dependency, hm, hnot⟩ := unknown
        rcases List.mem_cons.1 hm with rfl | hm
        · exact absurd known hnot
        · exact ⟨dependency, hm, hnot⟩
      rw [locator_resolve_of_knows known]
      exact ih hrest hlater
    · rw [locator_resolve_of_not_knows hfirst known]
      have hothers : ∀ dependency ∈ rest, ∃ service,
          (resolve locator.refreshed dependency).answer = .ok service := by
        intro dependency hm
        obtain ⟨found, hfound⟩ := hrest dependency hm
        have hsame := Locator.answer_resolve_resolve rfl locator first dependency
        rw [locator_resolve_of_not_knows hfirst known] at hsame
        exact ⟨found, hsame.trans hfound⟩
      refine locator_resolveAll_of_knows hothers fun dependency hm => ?_
      obtain ⟨found, hfound⟩ := hrest dependency hm
      exact knows_refreshed hfound

/-- Dependencies are resolved in an order: each comes to its service when its turn comes, and the
locator is refreshed once if one of them was not known, and else not. -/
structure ResolvesTo (locator : MemoryLocator) (serviceOf : Dependency → Service)
    (order : List Dependency) (bound : BoundServices) : Prop where
  answer : (bindAll locator order).answer = .ok bound
  entries : BoundServices.ofEntries (order.map fun dependency =>
    BoundService.new dependency.outputKey (serviceOf dependency)) = .ok bound
  turn : ∀ earlier dependency later, order = earlier ++ dependency :: later →
    (resolve (resolveAll locator earlier).locator dependency).answer = .ok (serviceOf dependency)
  unchanged : (∀ dependency ∈ order, locator.Knows dependency) →
    (bindAll locator order).locator = locator
  refreshed : (∃ dependency ∈ order, ¬ locator.Knows dependency) →
    (bindAll locator order).locator = locator.refreshed

theorem exists_resolvesTo {serviceOf : Dependency → Service} {order : List Dependency}
    (h : ∀ dependency ∈ order, (resolve locator dependency).answer = .ok (serviceOf dependency))
    (unreserved : ∀ dependency ∈ order, isReserved dependency.outputKey = false) :
    ∃ bound, ResolvesTo locator serviceOf order bound := by
  have hbind := Locator.bindAll_of_unreserved rfl locator unreserved
  have hanswer := Locator.answer_resolveAll rfl locator h
  have found : ∀ dependency ∈ order, ∃ service,
      (resolve locator dependency).answer = .ok service :=
    fun dependency hm => ⟨serviceOf dependency, h dependency hm⟩
  have free : ∀ entry ∈ order.map fun dependency =>
      BoundService.new dependency.outputKey (serviceOf dependency),
      isReserved entry.outputKey = false := by
    intro entry hm
    obtain ⟨dependency, hdependency, rfl⟩ := List.mem_map.1 hm
    exact unreserved dependency hdependency
  obtain ⟨bound, hbound⟩ := BoundServices.exists_of_unreserved free
  refine ⟨bound, ?_, hbound, ?_, fun knows => ?_, fun unknown => ?_⟩
  · rw [hbind, hanswer]
    exact hbound
  · rintro earlier dependency later rfl
    have hsame := Locator.answer_resolve_resolveAll rfl locator earlier dependency
    exact hsame.trans (h dependency (by simp))
  · rw [hbind]
    exact locator_resolveAll_of_knows found knows
  · rw [hbind]
    exact locator_resolveAll_of_not_knows found unknown

/-- If dependencies can be resolved, they can be in every order, each to the same service. The
services are bound alike if all binding keys are different, and the locator is refreshed once if a
dependency was not known, and else not. If a dependency has a reserved key, the first such is
named, and the locator stays as it is. -/
theorem bindAll_perm (locator : MemoryLocator) (dependencies : List Dependency) :
    (∀ services, (bindAll locator dependencies).answer = .ok services →
        ∃ serviceOf : Dependency → Service, ∀ order : List Dependency, order.Perm dependencies →
          ∃ bound, ResolvesTo locator serviceOf order bound ∧
            ((dependencies.map Dependency.bindingKey).Nodup → bound = services)) ∧
      ((∃ dependency ∈ dependencies, isReserved dependency.outputKey = true) →
        ∃ earlier dependency later, dependencies = earlier ++ dependency :: later ∧
          isReserved dependency.outputKey = true ∧
          (∀ other ∈ earlier, isReserved other.outputKey = false) ∧
          bindAll locator dependencies =
            ⟨[], locator, .error (.reservedOutputKey dependency.outputKey)⟩) := by
  constructor
  · intro services h
    have unreserved := Locator.unreserved_of_bindAll h
    have found := Locator.resolve_of_bindAll h
    let serviceOf (dependency : Dependency) : Service :=
      (resolve locator dependency).answer.toOption.getD default
    have each : ∀ dependency ∈ dependencies,
        (resolve locator dependency).answer = .ok (serviceOf dependency) := by
      intro dependency hm
      obtain ⟨service, hservice⟩ := found dependency hm
      simp only [serviceOf, hservice]
      rfl
    obtain ⟨first, hfirst⟩ := exists_resolvesTo each unreserved
    have hservices : first = services := Except.ok.inj (hfirst.answer.symm.trans h)
    refine ⟨serviceOf, fun order perm => ?_⟩
    obtain ⟨bound, hbound⟩ := exists_resolvesTo
      (fun dependency hm => each dependency (perm.mem_iff.1 hm))
      (fun dependency hm => unreserved dependency (perm.mem_iff.1 hm))
    refine ⟨bound, hbound, fun nodup => ?_⟩
    rw [← hservices]
    refine BoundServices.eq_of_perm (perm.symm.map _) ?_ hfirst.entries hbound.entries
    rw [List.map_map]
    exact nodup
  · intro h
    obtain ⟨earlier, dependency, later, rfl, reserved, first⟩ := Locator.exists_first_reserved h
    exact ⟨earlier, dependency, later, rfl, reserved, first,
      Locator.bindAll_of_reserved reserved first⟩

theorem bindAll_perm_sample :
    let locator : MemoryLocator :=
      ⟨[Sample.configured "cfg-1" "slack/webhook"], [Sample.configured "cfg-2" "google/sheet"], 0⟩
    let first : Dependency := ⟨"slack/webhook", "chat", none⟩
    let second : Dependency := ⟨"google/sheet", "rows", some "cfg-2"⟩
    let reserved : Dependency := ⟨"google/sheet", "@input", none⟩
    (∃ services, (bindAll locator [first, second]).answer = .ok services ∧
        (bindAll locator [second, first]).answer = .ok services ∧
        (bindAll locator [second, first]).locator = locator.refreshed) ∧
      (∃ dependency ∈ [first, reserved], isReserved dependency.outputKey = true) ∧
      ∃ outputKey, bindAll locator [first, reserved] =
        ⟨[], locator, .error (.reservedOutputKey outputKey)⟩ := by
  intro locator first second reserved
  constructor
  · have hok : (bindAll locator [first, second]).answer.isOk = true := by decide +kernel
    have hkeys : ([first, second].map Dependency.bindingKey).Nodup := by decide
    have unknown : ¬ locator.Knows second := by
      rintro ⟨service, hm, fits⟩
      obtain rfl := List.mem_singleton.1 hm
      exact absurd fits.integration (by decide)
    cases hbound : (bindAll locator [first, second]).answer with
    | error fault =>
      rw [hbound] at hok
      cases hok
    | ok services =>
      obtain ⟨serviceOf, horders⟩ := (bindAll_perm locator [first, second]).1 services hbound
      obtain ⟨bound, resolved, hsame⟩ := horders [second, first] (List.Perm.swap _ _ _)
      obtain rfl := hsame hkeys
      exact ⟨bound, rfl, resolved.answer, resolved.refreshed ⟨second, by simp, unknown⟩⟩
  · have named : ∃ dependency ∈ [first, reserved], isReserved dependency.outputKey = true :=
      ⟨reserved, by simp, by decide⟩
    obtain ⟨-, dependency, -, -, -, -, hfails⟩ := (bindAll_perm locator [first, reserved]).2 named
    exact ⟨named, dependency.outputKey, hfails⟩

end MemoryLocator
end BrickPipeline
