import BrickPipeline.Proofs.LintSound
import Mathlib.Data.List.Forall2

/-!
What dependencies are resolved to. The dependencies of a document share a locator, which resolving
one of them may refresh. If it does not matter how often that happens, each comes to what it would
come to by itself.
-/
namespace BrickPipeline

theorem Service.find?_append (services more : List Service) (integrationId : String)
    (configId : Option String) :
    find? (services ++ more) integrationId configId =
      (find? services integrationId configId).or (find? more integrationId configId) := by
  cases configId <;> exact List.find?_append

/-- Locators for which it does not matter how often they are refreshed, or for what dependency. -/
class Locator.Steady (L : Type) [Locator L] : Prop where
  /-- Behind a refresh, another one makes nothing else known. -/
  again : ∀ {before after : L}, refresh before = .ok after →
    ∃ last, refresh after = .ok last ∧ services last = services after
  /-- If dependencies are resolved in turn, a refresh for one keeps what is found for others. -/
  keeps : takesTime L = false → ∀ {before after : L}, refresh before = .ok after →
    ∀ {integrationId : String} {configId : Option String} {service : Service},
      Service.find? (services before) integrationId configId = some service →
      Service.find? (services after) integrationId configId = some service

instance : Locator.Steady MemoryLocator where
  again := by
    intro before after h
    cases h
    exact ⟨_, rfl, List.append_nil _⟩
  keeps := by
    intro _ before after h integrationId configId service found
    cases h
    show Service.find? (before.cached ++ before.remote) integrationId configId = some service
    have hcached : Service.find? before.cached integrationId configId = some service := found
    rw [Service.find?_append, hcached]
    rfl

instance : Locator.Steady FileLocator where
  again := by
    intro before after h
    obtain ⟨hload, hfile⟩ := FileLocator.load_of_refresh h
    -- The file is the same, so it is read to the same services.
    have hagain : FileLocator.load after.file = .ok after.known := hfile ▸ hload
    exact ⟨_, FileLocator.refresh_of_ok hagain, rfl⟩
  keeps := nofun

namespace Locator

variable {L : Type} [Locator L]

/-- The states that a locator can be brought to by refreshing it. -/
inductive Refreshed (locator : L) : L → Prop where
  | start : Refreshed locator locator
  | again {before after : L} (refreshed : Refreshed locator before)
    (made : refresh before = .ok after) : Refreshed locator after

theorem known?_eq (locator : L) (dependency : Dependency) :
    known? locator dependency =
      (Service.find? (services locator) dependency.integrationId dependency.configId).map
        (accept dependency) := by
  unfold known? locate
  cases Service.find? (services locator) dependency.integrationId dependency.configId <;> rfl

theorem known?_of_found {locator : L} {dependency : Dependency} {service : Service}
    (h : Service.find? (services locator) dependency.integrationId dependency.configId =
      some service) : known? locator dependency = some (accept dependency service) := by
  rw [known?_eq, h, Option.map_some]

theorem known?_of_not_found {locator : L} {dependency : Dependency}
    (h : Service.find? (services locator) dependency.integrationId dependency.configId = none) :
    known? locator dependency = none := by
  rw [known?_eq, h, Option.map_none]

theorem retry_of_refresh {before after : L} (h : refresh before = .ok after)
    (dependency : Dependency) : retry before dependency =
      (after, (locate after dependency.integrationId dependency.configId).bind
        (accept dependency)) := by
  rw [retry, h]
  rfl

theorem retry_of_error {locator : L} {fault : Error} (h : refresh locator = .error fault)
    (dependency : Dependency) : retry locator dependency = (locator, .error fault) := by
  rw [retry, h]

theorem resolve_of_known {locator : L} {dependency : Dependency} {answer : Except Error Service}
    (h : known? locator dependency = some answer) :
    resolve locator dependency = ⟨[], locator, answer⟩ := by
  rw [resolve, h]

theorem resolve_of_unknown {locator : L} {dependency : Dependency}
    (h : known? locator dependency = none) :
    resolve locator dependency =
      ⟨[refreshEntry dependency], (retry locator dependency).1, (retry locator dependency).2⟩ := by
  rw [resolve, h]

/-- A dependency that is not known comes to what a refresh makes known. -/
theorem resolve_of_refresh {before after : L} {dependency : Dependency}
    (h : known? before dependency = none) (made : refresh before = .ok after) :
    resolve before dependency =
      ⟨[refreshEntry dependency], after,
        (Service.find? (services after) dependency.integrationId dependency.configId).elim
          (.error (.integrationNotFound dependency.integrationId dependency.configId))
          (accept dependency)⟩ := by
  rw [resolve_of_unknown h, retry_of_refresh made, locate]
  cases Service.find? (services after) dependency.integrationId dependency.configId <;> rfl

theorem Refreshed.retry {before locator : L} (refreshed : Refreshed before locator)
    (dependency : Dependency) : Refreshed before (retry locator dependency).1 := by
  cases h : refresh locator with
  | error fault =>
    rw [retry_of_error h]
    exact refreshed
  | ok after =>
    rw [retry_of_refresh h]
    exact .again refreshed h

theorem Refreshed.resolve {before locator : L} (refreshed : Refreshed before locator)
    (dependency : Dependency) : Refreshed before (resolve locator dependency).locator := by
  cases h : known? locator dependency with
  | some answer =>
    rw [resolve_of_known h]
    exact refreshed
  | none =>
    rw [resolve_of_unknown h]
    exact refreshed.retry dependency

theorem Refreshed.resolveAll {before locator : L} (refreshed : Refreshed before locator)
    (dependencies : List Dependency) :
    Refreshed before (resolveAll locator dependencies).locator := by
  induction dependencies generalizing locator with
  | nil => exact refreshed
  | cons dependency rest ih =>
    unfold Locator.resolveAll
    dsimp only
    split
    · exact refreshed.resolve dependency
    · exact ih (refreshed.resolve dependency)

theorem Refreshed.finishAll {before locator : L} (refreshed : Refreshed before locator)
    (answers : List (Dependency × Option (Except Error Service))) :
    Refreshed before (finishAll locator answers).1 := by
  induction answers generalizing locator with
  | nil => exact refreshed
  | cons first rest ih =>
    obtain ⟨dependency, answer⟩ := first
    have turn : Refreshed before (answer.elim (Locator.retry locator dependency)
        fun answer => (locator, answer)).1 := by
      cases answer with
      | none => exact refreshed.retry dependency
      | some answer => exact refreshed
    rw [finishAll_cons]
    dsimp only
    split
    · exact turn
    · exact ih turn

/-- Binding the services of dependencies does nothing to a locator but to refresh it. -/
theorem Refreshed.bindAll {before locator : L} (refreshed : Refreshed before locator)
    (dependencies : List Dependency) : Refreshed before (bindAll locator dependencies).locator := by
  unfold Locator.bindAll
  split
  · exact refreshed
  · dsimp only
    split
    · unfold resolveTogether
      dsimp only
      split
      · exact refreshed
      · exact refreshed.finishAll _
    · exact refreshed.resolveAll dependencies

/-- A service that is found after a refresh is known from then on. -/
theorem known?_of_retry {before locator : L} (refreshed : Refreshed before locator)
    {dependency : Dependency} {service : Service}
    (h : (retry locator dependency).2 = .ok service) :
    ∃ after, Refreshed before after ∧ known? after dependency = some (.ok service) := by
  cases hr : refresh locator with
  | error fault =>
    rw [retry_of_error hr] at h
    cases h
  | ok after =>
    rw [retry_of_refresh hr] at h
    obtain ⟨found, hfound, haccept⟩ := Except.ok_of_bind h
    refine ⟨after, .again refreshed hr, ?_⟩
    rw [known?, hfound]
    exact congrArg some haccept

theorem known?_of_resolve {before locator : L} (refreshed : Refreshed before locator)
    {dependency : Dependency} {service : Service}
    (h : (resolve locator dependency).answer = .ok service) :
    ∃ after, Refreshed before after ∧ known? after dependency = some (.ok service) := by
  cases hk : known? locator dependency with
  | some answer =>
    rw [resolve_of_known hk] at h
    exact ⟨locator, refreshed, hk.trans (congrArg some h)⟩
  | none =>
    rw [resolve_of_unknown hk] at h
    exact known?_of_retry refreshed h

section

variable [Steady L]

/-- After a refresh for one dependency, a refresh for another finds for it what it would have found
without. -/
theorem retry_retry (locator : L) (first dependency : Dependency) :
    (retry (retry locator first).1 dependency).2 = (retry locator dependency).2 := by
  cases h : refresh locator with
  | error fault => rw [retry_of_error h first]
  | ok after =>
    obtain ⟨last, hlast, hservices⟩ := Steady.again h
    rw [retry_of_refresh h, retry_of_refresh h, retry_of_refresh hlast, locate, locate, hservices]

/-- What a refresh has made known is found without another one. -/
theorem answer_resolve_of_refresh {before after : L} (h : refresh before = .ok after)
    (dependency : Dependency) :
    (resolve after dependency).answer = (retry before dependency).2 := by
  obtain ⟨last, hlast, hservices⟩ := Steady.again h
  rw [retry_of_refresh h, locate]
  cases hf : Service.find? (services after) dependency.integrationId dependency.configId with
  | some service =>
    rw [resolve_of_known (known?_of_found hf)]
    rfl
  | none =>
    rw [resolve_of_unknown (known?_of_not_found hf), retry_of_refresh hlast, locate, hservices, hf]

/-- If dependencies are resolved in turn, each comes to the same after another has been resolved. -/
theorem answer_resolve_resolve (inTurn : takesTime L = false) (locator : L)
    (first dependency : Dependency) :
    (resolve (resolve locator first).locator dependency).answer =
      (resolve locator dependency).answer := by
  cases hfirst : known? locator first with
  | some answer => rw [resolve_of_known hfirst]
  | none =>
    rw [resolve_of_unknown hfirst]
    cases h : refresh locator with
    | error fault => rw [retry_of_error h]
    | ok after =>
      rw [retry_of_refresh h]
      cases hf : Service.find? (services locator) dependency.integrationId dependency.configId with
      | some service =>
        have hkept := Steady.keeps inTurn h hf
        rw [resolve_of_known (known?_of_found hkept), resolve_of_known (known?_of_found hf)]
      | none =>
        rw [resolve_of_unknown (known?_of_not_found hf)]
        exact answer_resolve_of_refresh h dependency

end

/-- What a dependency has come to along with others: a service that the locator has come to know,
and for a steady one that which the dependency comes to by itself. -/
structure Located (locator : L) (dependency : Dependency) (service : Service) : Prop where
  known : ∃ after, Refreshed locator after ∧ known? after dependency = some (.ok service)
  alone : Steady L → (resolve locator dependency).answer = .ok service

/-- The binding of a dependency for what it has come to. -/
def Binds (locator : L) (dependency : Dependency) (entry : BoundService) : Prop :=
  ∃ service, Located locator dependency service ∧
    BoundService.new dependency.outputKey service = entry

/-- Dependencies that are resolved in turn. -/
theorem binds_of_resolveAll (inTurn : takesTime L = false) {before : L}
    {dependencies : List Dependency} {entries : List BoundService} (locator : L)
    (refreshed : Refreshed before locator)
    (same : Steady L → ∀ other,
      (resolve locator other).answer = (resolve before other).answer)
    (h : (resolveAll locator dependencies).answer = .ok entries) :
    List.Forall₂ (Binds before) dependencies entries := by
  induction dependencies generalizing locator entries with
  | nil =>
    cases h
    exact .nil
  | cons dependency rest ih =>
    unfold resolveAll at h
    dsimp only at h
    split at h
    · cases h
    · rename_i service hs
      obtain ⟨others, hothers, rfl⟩ := Except.ok_of_map h
      have hlocated : Located before dependency service :=
        ⟨known?_of_resolve refreshed hs, fun steady => (same steady dependency).symm.trans hs⟩
      refine .cons ⟨service, hlocated, rfl⟩
        (ih _ (refreshed.resolve dependency) (fun steady other => ?_) hothers)
      rw [answer_resolve_resolve inTurn, same steady]

/-- Dependencies that are resolved side by side. -/
theorem binds_of_finishAll {before : L} {dependencies : List Dependency}
    {entries : List BoundService} (locator : L) (refreshed : Refreshed before locator)
    (same : Steady L → ∀ other, (retry locator other).2 = (retry before other).2)
    (h : (finishAll locator (dependencies.map fun d => (d, known? before d))).2 = .ok entries) :
    List.Forall₂ (Binds before) dependencies entries := by
  induction dependencies generalizing locator entries with
  | nil =>
    cases h
    exact .nil
  | cons dependency rest ih =>
    rw [List.map_cons, finishAll_cons] at h
    dsimp only at h
    split at h
    · cases h
    · rename_i service hs
      obtain ⟨others, hothers, rfl⟩ := Except.ok_of_map h
      cases hk : known? before dependency with
      | some answer =>
        rw [hk] at hs hothers
        have hknown : known? before dependency = some (.ok service) := hk.trans (congrArg some hs)
        have hlocated : Located before dependency service :=
          ⟨⟨before, .start, hknown⟩, fun _ => by rw [resolve_of_known hknown]⟩
        exact .cons ⟨service, hlocated, rfl⟩ (ih locator refreshed same hothers)
      | none =>
        rw [hk] at hs hothers
        have hlocated : Located before dependency service := by
          refine ⟨known?_of_retry refreshed hs, fun steady => ?_⟩
          rw [resolve_of_unknown hk]
          exact (same steady dependency).symm.trans hs
        refine .cons ⟨service, hlocated, rfl⟩
          (ih _ (refreshed.retry dependency) (fun steady other => ?_) hothers)
        exact (retry_retry locator dependency other).trans (same steady other)

/-- Services are bound for what dependencies have come to. -/
theorem binds_of_bindAll {locator : L} {dependencies : List Dependency} {services : BoundServices}
    (h : (bindAll locator dependencies).answer = .ok services) :
    ∃ entries, BoundServices.ofEntries entries = .ok services ∧
      List.Forall₂ (Binds locator) dependencies entries := by
  unfold bindAll at h
  split at h
  · cases h
  · obtain ⟨entries, hentries, hbound⟩ := Except.ok_of_bind h
    refine ⟨entries, hbound, ?_⟩
    split at hentries
    · unfold resolveTogether at hentries
      dsimp only at hentries
      split at hentries
      · cases hentries
      · exact binds_of_finishAll locator .start (fun _ _ => rfl) hentries
    · rename_i htime
      have inTurn : takesTime L = false := by simpa using htime
      exact binds_of_resolveAll inTurn locator .start (fun _ _ => rfl) hentries

end Locator

/-! What is bound is found under its own key, if no later dependency has it too. -/

theorem Dependency.map_bindingKey_zipIdx (dependencies : List Dependency) :
    dependencies.zipIdx.map (·.1.bindingKey) = dependencies.map bindingKey := by
  rw [← Function.comp_def bindingKey Prod.fst, ← List.map_map, List.zipIdx_map_fst]

namespace Lint

variable {σ : Type} {registry : Registry σ} {document : Document} {diagnostics : List Diagnostic}

theorem duplicateServiceKey_subset_diagnose (registry : Registry σ) :
    duplicateServiceKey document ⊆ diagnose registry document := by
  intro diagnostic hm
  simp only [diagnose, List.mem_append, hm, true_or, or_true]

/-- Dependencies of which none repeats a key have keys of their own, and none that was seen. -/
theorem nodup_of_repeatedKeys {seen : List String} {declared : List (Dependency × Nat)}
    (h : repeatedKeys seen declared = []) :
    (declared.map (·.1.bindingKey)).Nodup ∧ ∀ entry ∈ declared, entry.1.bindingKey ∉ seen := by
  induction declared generalizing seen with
  | nil => exact ⟨List.nodup_nil, nofun⟩
  | cons entry rest ih =>
    unfold repeatedKeys at h
    split at h
    · cases h
    · rename_i hseen
      obtain ⟨hnodup, hrest⟩ := ih h
      have hfirst : entry.1.bindingKey ∉ seen := by simpa using hseen
      have hothers : entry.1.bindingKey ∉ rest.map (·.1.bindingKey) := by
        intro hm
        obtain ⟨other, hother, he⟩ := List.mem_map.1 hm
        exact hrest other hother (he ▸ List.mem_cons_self)
      refine ⟨List.nodup_cons.2 ⟨hothers, hnodup⟩, List.forall_mem_cons.2 ⟨hfirst, ?_⟩⟩
      exact fun other hother hm => hrest other hother (List.mem_cons_of_mem _ hm)

/-- The dependencies of a document that passes the lint are bound under different keys. -/
theorem nodup_bindingKey (valid : check registry document = .ok diagnostics) :
    (document.dependencies.map Dependency.bindingKey).Nodup := by
  have hrepeated : repeatedKeys [] document.dependencies.zipIdx = [] := by
    refine List.eq_nil_iff_forall_not_mem.2 fun entry hm => ?_
    have hdiagnostic := duplicateServiceKey_subset_diagnose registry (List.mem_map_of_mem hm)
    exact ne_error_of_check valid hdiagnostic rfl
  rw [← Dependency.map_bindingKey_zipIdx]
  exact (nodup_of_repeatedKeys hrepeated).1

end Lint

namespace BoundServices

/-- The map of bound services is that of their entries, each under its own key. -/
theorem entries_of_ofEntries {entries : List BoundService} {services : BoundServices}
    (h : ofEntries entries = .ok services) :
    services.entries =
      Entries.ofList (entries.map fun entry => (bindingKey entry.outputKey, entry)) := by
  have hfold : ∀ (entries : List BoundService) (before : BoundServices),
      entries.foldlM insert before = .ok services →
        services.entries = Entries.insertAll before.entries
          (entries.map fun entry => (bindingKey entry.outputKey, entry)) := by
    intro entries
    induction entries with
    | nil =>
      intro before he
      cases he
      rfl
    | cons entry rest ih =>
      intro before he
      rw [List.foldlM_cons] at he
      obtain ⟨after, ha, hrest⟩ := Except.ok_of_bind he
      unfold insert at ha
      split at ha
      · cases ha
      · cases ha
        exact ih _ hrest
  exact hfold entries empty h

theorem sorted_of_ofEntries {entries : List BoundService} {services : BoundServices}
    (h : ofEntries entries = .ok services) : services.entries.Sorted := by
  rw [entries_of_ofEntries h]
  exact Entries.sorted_ofList _

end BoundServices

namespace Locator

variable {L : Type} [Locator L] {locator : L} {dependencies : List Dependency}

theorem Binds.bindingKey_eq {dependency : Dependency} {entry : BoundService}
    (binds : Binds locator dependency entry) :
    bindingKey entry.outputKey = dependency.bindingKey := by
  obtain ⟨service, -, rfl⟩ := binds
  rfl

theorem map_bindingKey_of_binds {entries : List BoundService}
    (h : List.Forall₂ (Binds locator) dependencies entries) :
    dependencies.map Dependency.bindingKey = entries.map (bindingKey ·.outputKey) := by
  rw [← List.forall₂_eq_eq_eq, List.forall₂_map_left_iff, List.forall₂_map_right_iff]
  exact h.imp fun _ _ binds => binds.bindingKey_eq.symm

/-- The last dependency with its key is found under it, bound to what it has come to. -/
theorem get?_of_bindAll_last {services : BoundServices} {earlier later : List Dependency}
    {dependency : Dependency}
    (h : (bindAll locator (earlier ++ dependency :: later)).answer = .ok services)
    (last : dependency.bindingKey ∉ later.map Dependency.bindingKey) :
    ∃ service, Located locator dependency service ∧ services.get? dependency.outputKey =
      some (BoundService.new dependency.outputKey service) := by
  obtain ⟨entries, hservices, hbinds⟩ := binds_of_bindAll h
  obtain ⟨entry, rest, hentry, hrest, hdrop⟩ := List.forall₂_cons_right_iff.1
    (List.forall₂_drop_append entries earlier (dependency :: later) hbinds.flip)
  have binds : Binds locator dependency entry := hentry
  have hsplit : entries = entries.take earlier.length ++ entry :: rest := by
    rw [← hdrop, List.take_append_drop]
  have hlast : bindingKey entry.outputKey ∉
      Entries.keys (rest.map fun entry => (bindingKey entry.outputKey, entry)) := by
    rw [Entries.keys, List.map_map, binds.bindingKey_eq]
    exact map_bindingKey_of_binds hrest.flip ▸ last
  have hget : services.get? dependency.outputKey = some entry := by
    rw [BoundServices.get?, BoundServices.entries_of_ofEntries hservices, hsplit, List.map_append,
      List.map_cons]
    have hkey : bindingKey dependency.outputKey = bindingKey entry.outputKey :=
      binds.bindingKey_eq.symm
    rw [hkey]
    exact Entries.get?_insertAll_of_last hlast _ entry []
  obtain ⟨service, located, hnew⟩ := binds
  exact ⟨service, located, hnew ▸ hget⟩

/-- A dependency with a key of its own is found under it, bound to what it has come to. -/
theorem get?_of_bindAll {services : BoundServices}
    (h : (bindAll locator dependencies).answer = .ok services)
    (nodup : (dependencies.map Dependency.bindingKey).Nodup) {dependency : Dependency}
    (hm : dependency ∈ dependencies) :
    ∃ service, Located locator dependency service ∧ services.get? dependency.outputKey =
      some (BoundService.new dependency.outputKey service) := by
  obtain ⟨earlier, later, rfl⟩ := List.append_of_mem hm
  rw [List.map_append] at nodup
  have last : dependency.bindingKey ∉ later.map Dependency.bindingKey :=
    (List.nodup_cons.1 (List.nodup_append.1 nodup).2.1).1
  exact get?_of_bindAll_last h last

end Locator
end BrickPipeline
