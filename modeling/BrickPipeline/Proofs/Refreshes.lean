import BrickPipeline.Proofs.LocatorHistory
import BrickPipeline.Proofs.Simulation

/-!
How often locators are refreshed. A counter beside a locator changes none of its answers, so it
counts the refreshes that the locator goes through for a request.
-/
namespace BrickPipeline

namespace Locator

variable {L M : Type} [Locator L] [Locator M]

/-- Locators that cannot be told apart still cannot when they have answered the same request. -/
theorem Simulates.after {alike : Service → Service → Prop} {rel : L → M → Prop}
    (simulates : Simulates alike rel) {locator : L} {other : M} (h : rel locator other)
    (request : Request) : rel (Locator.after locator request) (Locator.after other request) := by
  cases request with
  | refresh =>
    have hr := simulates.refresh locator other h
    unfold Locator.after
    generalize Locator.refresh locator = first, Locator.refresh other = second at hr
    cases hr with
    | ok hafter => exact hafter
    | error failure => exact h
  | locate integrationId configId => exact h
  | resolve dependency => exact (simulates.resolve h dependency).locator
  | bindAll dependencies => exact (simulates.bindAll h dependencies).locator

/-- A locator and the number of refreshes that it has been through. -/
structure Counted (L : Type) where
  locator : L
  refreshes : Nat

namespace Counted

instance : Locator (Counted L) where
  services := fun counted => services counted.locator
  refresh := fun counted => return ⟨← refresh counted.locator, counted.refreshes + 1⟩
  takesTime := takesTime L

theorem refresh_of_ok {counted : Counted L} {after : L} (h : refresh counted.locator = .ok after) :
    refresh counted = .ok ⟨after, counted.refreshes + 1⟩ := by
  show (do return ⟨← refresh counted.locator, _⟩ : Except Error (Counted L)) = _
  rw [h]
  rfl

theorem refresh_of_error {counted : Counted L} {fault : Error}
    (h : refresh counted.locator = .error fault) : refresh counted = .error fault := by
  show (do return ⟨← refresh counted.locator, _⟩ : Except Error (Counted L)) = _
  rw [h]
  rfl

/-- What is counted was made. -/
theorem refreshed_of_ok {counted after : Counted L} (h : refresh counted = .ok after) :
    refresh counted.locator = .ok after.locator ∧ after.refreshes = counted.refreshes + 1 := by
  cases hr : refresh counted.locator with
  | error fault =>
    rw [refresh_of_error hr] at h
    cases h
  | ok locator =>
    rw [refresh_of_ok hr] at h
    cases h
    exact ⟨rfl, rfl⟩

/-- Nothing but the counter tells a locator that counts from one that does not. -/
theorem simulates :
    Simulates Eq fun (counted : Counted L) locator => counted.locator = locator where
  interchangeable := Service.interchangeable_eq
  takesTime := rfl
  services := by
    rintro counted - rfl
    exact List.forall₂_refl _
  refresh := by
    rintro counted - rfl
    cases h : refresh counted.locator with
    | ok after =>
      rw [refresh_of_ok h]
      exact .ok rfl
    | error fault =>
      rw [refresh_of_error h]
      exact .error fault

theorem locator_after (counted : Counted L) (request : Request) :
    (after counted request).locator = after counted.locator request :=
  simulates.after rfl request

end Counted

/-- How often a locator is refreshed for a request. -/
def refreshes (locator : L) (request : Request) : Nat :=
  (after (⟨locator, 0⟩ : Counted L) request).refreshes

variable {locator : L} {dependency : Dependency}

/-- A dependency that is known needs no refresh. -/
theorem refreshes_resolve_of_known {answer : Except Error Service}
    (h : known? locator dependency = some answer) :
    refreshes locator (.resolve dependency) = 0 := by
  have hcounted : known? (⟨locator, 0⟩ : Counted L) dependency = some answer := h
  rw [refreshes, after, resolve_of_known hcounted]

/-- A dependency that is not known needs one refresh, whatever that makes known. -/
theorem refreshes_resolve_of_unknown (h : known? locator dependency = none) {last : L}
    (made : refresh locator = .ok last) : refreshes locator (.resolve dependency) = 1 := by
  have hcounted : known? (⟨locator, 0⟩ : Counted L) dependency = none := h
  have hmade : refresh (⟨locator, 0⟩ : Counted L) = .ok ⟨last, 1⟩ := Counted.refresh_of_ok made
  rw [refreshes, after, resolve_of_unknown hcounted, retry_of_refresh hmade]

end Locator

/-- The count that a locator in memory keeps of its refreshes is right. -/
theorem MemoryLocator.refreshes_after (locator : MemoryLocator) (request : Locator.Request) :
    (Locator.after locator request).refreshes =
      locator.refreshes + Locator.refreshes locator request := by
  have hkept : ∀ {after : Locator.Counted MemoryLocator},
      Locator.Refreshed (⟨locator, 0⟩ : Locator.Counted MemoryLocator) after →
        after.locator.refreshes = locator.refreshes + after.refreshes := by
    intro after h
    induction h with
    | start => rfl
    | @again before after _ made ih =>
      obtain ⟨hmade, hcount⟩ := Locator.Counted.refreshed_of_ok made
      have hlocator : after.locator = before.locator.refreshed := (Except.ok.inj hmade).symm
      rw [hlocator, hcount, refreshed, ih, Nat.add_assoc]
  have hafter := hkept (Locator.Refreshed.after _ request)
  rw [Locator.Counted.locator_after] at hafter
  exact hafter

end BrickPipeline
