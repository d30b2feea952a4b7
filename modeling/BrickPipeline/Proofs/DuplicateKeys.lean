import BrickPipeline.Proofs.Diagnostics
import BrickPipeline.Proofs.ResolutionOrder

/-!
Dependencies that share a binding key. When services are bound, all but the last of them are lost;
the lint reports all but the first. So there are as many reports as there are losses, though not of
the same dependencies.
-/
namespace BrickPipeline

/-- Of the dependencies with some binding key, one is the last. -/
theorem Dependency.exists_last {dependencies : List Dependency} {key : String}
    (h : key ∈ dependencies.map bindingKey) :
    ∃ earlier dependency later, dependencies = earlier ++ dependency :: later ∧
      dependency.bindingKey = key ∧ key ∉ later.map bindingKey := by
  induction dependencies with
  | nil => cases h
  | cons first rest ih =>
    by_cases hrest : key ∈ rest.map bindingKey
    · obtain ⟨earlier, dependency, later, rfl, hkey, last⟩ := ih hrest
      exact ⟨first :: earlier, dependency, later, rfl, hkey, last⟩
    · have hfirst : first.bindingKey = key := ((List.mem_cons.1 h).resolve_right hrest).symm
      exact ⟨[], first, rest, rfl, hfirst, hrest⟩

/-- If the keys that were seen are those of a map, a dependency repeats a key exactly if binding it
adds no entry. -/
theorem Lint.length_insertAll_add_repeatedKeys {α : Type} {entries : Entries α}
    (sorted : entries.Sorted) {seen : List String}
    (hseen : ∀ key, key ∈ seen ↔ key ∈ Entries.keys entries)
    {declared : List (Dependency × Nat)} {updates : List (String × α)}
    (hkeys : declared.map (·.1.bindingKey) = Entries.keys updates) :
    (Entries.insertAll entries updates).length + (repeatedKeys seen declared).length =
      entries.length + declared.length := by
  induction declared generalizing entries seen updates with
  | nil =>
    obtain rfl : updates = [] := List.map_eq_nil_iff.1 hkeys.symm
    rfl
  | cons first rest ih =>
    obtain ⟨dependency, index⟩ := first
    obtain ⟨update, others, rfl, hkey, hothers⟩ := List.map_eq_cons_iff.1 hkeys.symm
    obtain ⟨key, value⟩ := update
    obtain rfl : key = dependency.bindingKey := hkey
    have sortedAfter := Entries.sorted_insert dependency.bindingKey value sorted
    have hinsert : Entries.insertAll entries ((dependency.bindingKey, value) :: others) =
        Entries.insertAll (Entries.insert dependency.bindingKey value entries) others := rfl
    have hlength := Entries.length_insert dependency.bindingKey value sorted
    rw [hinsert, repeatedKeys, List.length_cons]
    -- A repeated key is overwritten in the map; a new one is seen from now on and has an entry.
    by_cases hm : dependency.bindingKey ∈ seen
    · have hafter : ∀ key, key ∈ seen ↔
          key ∈ Entries.keys (Entries.insert dependency.bindingKey value entries) := by
        intro key
        rw [Entries.mem_keys_insert, ← hseen]
        exact ⟨.inr, fun h => h.elim (fun he => he ▸ hm) id⟩
      have hcount := ih sortedAfter hafter hothers.symm
      rw [if_pos ((hseen _).1 hm)] at hlength
      rw [if_pos (List.contains_iff_mem.2 hm), List.length_cons]
      omega
    · have hafter : ∀ key, key ∈ dependency.bindingKey :: seen ↔
          key ∈ Entries.keys (Entries.insert dependency.bindingKey value entries) := by
        intro key
        rw [Entries.mem_keys_insert, List.mem_cons, hseen]
      have hcount := ih sortedAfter hafter hothers.symm
      rw [if_neg (mt (hseen _).2 hm)] at hlength
      rw [if_neg (mt List.contains_iff_mem.1 hm)]
      omega

namespace Locator

variable {L : Type} [Locator L] {locator : L} {dependencies : List Dependency}
  {services : BoundServices}

/-- As many services are bound as dependencies repeat no key. -/
theorem length_of_bindAll (h : (bindAll locator dependencies).answer = .ok services) :
    services.entries.length + (Lint.repeatedKeys [] dependencies.zipIdx).length =
      dependencies.length := by
  obtain ⟨entries, hservices, hbinds⟩ := binds_of_bindAll h
  have hkeys : dependencies.zipIdx.map (·.1.bindingKey) =
      Entries.keys (entries.map fun entry => (bindingKey entry.outputKey, entry)) := by
    rw [Dependency.map_bindingKey_zipIdx, map_bindingKey_of_binds hbinds, Entries.keys,
      List.map_map]
    rfl
  have hseen : ∀ key, key ∈ ([] : List String) ↔
      key ∈ Entries.keys (Entries.ofList ([] : List (String × BoundService))) := fun _ => Iff.rfl
  have hcount := Lint.length_insertAll_add_repeatedKeys (Entries.sorted_ofList []) hseen hkeys
  rw [BoundServices.entries_of_ofEntries hservices, Entries.ofList]
  rw [List.length_zipIdx] at hcount
  exact hcount.trans (Nat.zero_add _)

/-- Every entry is that of the last dependency with its key. -/
theorem exists_last_of_bindAll (h : (bindAll locator dependencies).answer = .ok services)
    {key : String} {entry : BoundService} (hm : (key, entry) ∈ services.entries) :
    ∃ earlier dependency later service, dependencies = earlier ++ dependency :: later ∧
      dependency.bindingKey = key ∧ key ∉ later.map Dependency.bindingKey ∧
      Located locator dependency service ∧
      entry = BoundService.new dependency.outputKey service := by
  obtain ⟨entries, hservices, hbinds⟩ := binds_of_bindAll h
  have sorted : services.entries.Sorted := BoundServices.sorted_of_ofEntries hservices
  have hkey : key ∈ dependencies.map Dependency.bindingKey := by
    rw [BoundServices.entries_of_ofEntries hservices] at hm
    obtain ⟨bound, hbound, heq⟩ := List.mem_map.1 (Entries.mem_of_mem_ofList hm)
    rw [map_bindingKey_of_binds hbinds]
    exact List.mem_map.2 ⟨bound, hbound, congrArg Prod.fst heq⟩
  obtain ⟨earlier, dependency, later, rfl, rfl, last⟩ := Dependency.exists_last hkey
  obtain ⟨service, located, hget⟩ := get?_of_bindAll_last h last
  have hfound : services.get? dependency.outputKey = some entry :=
    (Entries.get?_eq_some_iff sorted).2 hm
  exact ⟨earlier, dependency, later, service, rfl, rfl, last, located,
    Option.some.inj (hfound.symm.trans hget)⟩

end Locator

namespace Lint

open Locator (bindAll)

/-- If services can be bound for a document, there are as many reports of duplicate keys as
dependencies whose service is lost. Each entry stands under its own binding key, which is not
reserved, and has the service of the last dependency with that key. Without a report, every
dependency is bound. -/
theorem duplicates_exact {σ L : Type} [Locator L] (registry : Registry σ) (document : Document)
    (locator : L) {services : BoundServices}
    (h : (bindAll locator document.dependencies).answer = .ok services) :
    let reports := (diagnose registry document).filter (·.rule = "duplicate_service_key")
    services.entries.length + reports.length = document.dependencies.length ∧
      (∀ key entry, (key, entry) ∈ services.entries →
        key = bindingKey entry.outputKey ∧ key ≠ inputKey ∧ key ≠ optionsKey ∧
        ∃ earlier dependency later service,
          document.dependencies = earlier ++ dependency :: later ∧
          dependency.bindingKey = key ∧ key ∉ later.map Dependency.bindingKey ∧
          Locator.Located locator dependency service ∧
          entry = BoundService.new dependency.outputKey service) ∧
      (reports = [] → ∀ dependency ∈ document.dependencies, ∃ service,
        Locator.Located locator dependency service ∧ services.get? dependency.outputKey =
          some (BoundService.new dependency.outputKey service)) := by
  intro reports
  have hreports : reports = duplicateServiceKey document :=
    diagnose_duplicateServiceKey registry document
  refine ⟨?_, fun key entry hm => ?_, fun hnone dependency hm => ?_⟩
  · rw [hreports, duplicateServiceKey, List.length_map]
    exact Locator.length_of_bindAll h
  · obtain ⟨earlier, dependency, later, service, hsplit, hkey, last, located, rfl⟩ :=
      Locator.exists_last_of_bindAll h hm
    have hdeclared : dependency ∈ document.dependencies := by simp [hsplit]
    have unreserved := Locator.unreserved_of_bindAll h dependency hdeclared
    have hfree : dependency.bindingKey ≠ inputKey ∧ dependency.bindingKey ≠ optionsKey := by
      simpa [isReserved, Dependency.bindingKey] using unreserved
    exact ⟨hkey.symm, hkey ▸ hfree.1, hkey ▸ hfree.2,
      earlier, dependency, later, service, hsplit, hkey, last, located, rfl⟩
  · have hrepeated : repeatedKeys [] document.dependencies.zipIdx = [] :=
      List.map_eq_nil_iff.1 (hreports.symm.trans hnone)
    have hkeys := Dependency.map_bindingKey_zipIdx document.dependencies
    exact Locator.get?_of_bindAll h (hkeys ▸ (nodup_of_repeatedKeys hrepeated).1) hm

theorem duplicates_exact_sample :
    let locator : MemoryLocator := .ofServices
      [Sample.configured "cfg-1" "google/sheet", Sample.configured "cfg-2" "slack/webhook"]
    let document : Document := ⟨.v3, none, [], [⟨"google/sheet", "rows", none⟩,
      ⟨"google/sheet", "sheets", none⟩, ⟨"slack/webhook", "@rows", none⟩], none, .null⟩
    ∃ services, (bindAll locator document.dependencies).answer = .ok services ∧
      services.entries.map (fun entry => (entry.1, entry.2.service.id)) =
        [("@rows", "cfg-2"), ("@sheets", "cfg-1")] ∧
      ((diagnose (Registry.standard : Registry Unit) document).filter
        (·.rule = "duplicate_service_key")).length = 1 := by
  intro locator document
  have hentries : ((bindAll locator document.dependencies).answer.toOption.map fun services =>
      services.entries.map fun entry => (entry.1, entry.2.service.id)) =
        some [("@rows", "cfg-2"), ("@sheets", "cfg-1")] := by decide +kernel
  obtain ⟨services, hsome, hids⟩ := Option.map_eq_some_iff.1 hentries
  have hbound := Except.ok_of_toOption hsome
  obtain ⟨hcount, -⟩ := duplicates_exact (Registry.standard : Registry Unit) document locator hbound
  have hlength : services.entries.length = 2 := by
    simpa using congrArg List.length hids
  have hdeclared : document.dependencies.length = 3 := rfl
  exact ⟨services, hbound, hids, by omega⟩

end Lint
end BrickPipeline
