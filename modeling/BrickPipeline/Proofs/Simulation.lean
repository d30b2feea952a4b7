import BrickPipeline.Service.Locator
import Mathlib.Data.List.Forall2

/-!
Locators that cannot be told apart. If they know services that neither a look-up nor a binding tells
apart, and if a refresh keeps it so, they answer whatever they are asked alike.
-/
namespace BrickPipeline

variable {L M : Type}

/-- Related values, or the same failure. -/
inductive SameAnswer {α β : Type} (rel : α → β → Prop) :
    Except Error α → Except Error β → Prop where
  | ok {value : α} {other : β} (related : rel value other) : SameAnswer rel (.ok value) (.ok other)
  | error (failure : Error) : SameAnswer rel (.error failure) (.error failure)

/-- A relation of services that are looked up alike and bound alike. -/
structure Service.Interchangeable (alike : Service → Service → Prop) : Prop where
  id : ∀ first second, alike first second → first.id = second.id
  integrationId : ∀ first second, alike first second → first.integrationId = second.integrationId
  new : ∀ first second, alike first second → ∀ outputKey,
    BoundService.new outputKey first = BoundService.new outputKey second

theorem Service.interchangeable_eq : Interchangeable Eq :=
  ⟨fun _ _ h => h ▸ rfl, fun _ _ h => h ▸ rfl, fun _ _ h _ => h ▸ rfl⟩

/-- Related locators know services that are interchangeable, now and after every refresh, and a
refresh takes its time, fails or succeeds alike. -/
structure Locator.Simulates [Locator L] [Locator M] (alike : Service → Service → Prop)
    (rel : L → M → Prop) : Prop where
  interchangeable : Service.Interchangeable alike
  takesTime : takesTime L = takesTime M
  services : ∀ first second, rel first second →
    List.Forall₂ alike (services first) (services second)
  refresh : ∀ first second, rel first second → SameAnswer rel (refresh first) (refresh second)

theorem Service.Interchangeable.find? {alike : Service → Service → Prop}
    (interchangeable : Interchangeable alike) {services others : List Service}
    (same : List.Forall₂ alike services others) (integrationId : String)
    (configId : Option String) :
    Option.Rel alike (Service.find? services integrationId configId)
      (Service.find? others integrationId configId) := by
  -- The service that is looked for is told by data that are the same.
  have hf : ∀ p : Service → Bool,
      (∀ first second, alike first second → p first = p second) →
        Option.Rel alike (services.find? p) (others.find? p) := by
    intro p hp
    induction same with
    | nil => exact .none
    | cons head _ ih =>
      rw [List.find?_cons, List.find?_cons, hp _ _ head]
      split
      · exact .some head
      · exact ih
  unfold Service.find?
  cases configId with
  | none => exact hf _ fun _ _ same => by rw [interchangeable.integrationId _ _ same]
  | some configId => exact hf _ fun _ _ same => by rw [interchangeable.id _ _ same]

namespace Locator

variable [Locator L]

/-- Two locators were asked, logged the same, and have answered as told. -/
structure SameLocated {α β : Type} (rel : L → M → Prop)
    (answers : Except Error α → Except Error β → Prop) (first : Located L α)
    (second : Located M β) : Prop where
  log : first.log = second.log
  locator : rel first.locator second.locator
  answer : answers first.answer second.answer

theorem sameAnswer_accept {alike : Service → Service → Prop}
    (interchangeable : Service.Interchangeable alike) {service other : Service}
    (h : alike service other) (dependency : Dependency) :
    SameAnswer alike (accept dependency service) (accept dependency other) := by
  unfold accept
  rw [interchangeable.id _ _ h, interchangeable.integrationId _ _ h]
  split
  · exact .ok h
  · exact .error _

namespace Simulates

variable [Locator M] {alike : Service → Service → Prop} {rel : L → M → Prop}
  (simulates : Simulates alike rel)

include simulates

variable {locator : L} {other : M}

theorem locate (h : rel locator other) (integrationId : String) (configId : Option String) :
    SameAnswer alike (Locator.locate locator integrationId configId)
      (Locator.locate other integrationId configId) := by
  have hf := simulates.interchangeable.find? (simulates.services locator other h) integrationId
    configId
  unfold Locator.locate
  generalize Service.find? (Locator.services locator) integrationId configId = first,
    Service.find? (Locator.services other) integrationId configId = second at hf
  cases hf with
  | none => exact .error _
  | some hs => exact .ok hs

theorem known? (h : rel locator other) (dependency : Dependency) :
    Option.Rel (SameAnswer alike) (Locator.known? locator dependency)
      (Locator.known? other dependency) := by
  have hl := simulates.locate h dependency.integrationId dependency.configId
  unfold Locator.known?
  generalize Locator.locate locator dependency.integrationId dependency.configId = first,
    Locator.locate other dependency.integrationId dependency.configId = second at hl
  cases hl with
  | ok hs => exact .some (sameAnswer_accept simulates.interchangeable hs dependency)
  | error _ => exact .none

theorem retry (h : rel locator other) (dependency : Dependency) :
    rel (Locator.retry locator dependency).1 (Locator.retry other dependency).1 ∧
      SameAnswer alike (Locator.retry locator dependency).2
        (Locator.retry other dependency).2 := by
  have hr := simulates.refresh locator other h
  unfold Locator.retry
  generalize Locator.refresh locator = first, Locator.refresh other = second at hr
  cases hr with
  | error failure => exact ⟨h, .error failure⟩
  | @ok after twin hafter =>
    refine ⟨hafter, ?_⟩
    have hl := simulates.locate hafter dependency.integrationId dependency.configId
    dsimp only
    generalize Locator.locate after dependency.integrationId dependency.configId = found,
      Locator.locate twin dependency.integrationId dependency.configId = second at hl
    cases hl with
    | ok hs => exact sameAnswer_accept simulates.interchangeable hs dependency
    | error failure => exact .error failure

theorem resolve (h : rel locator other) (dependency : Dependency) :
    SameLocated rel (SameAnswer alike) (Locator.resolve locator dependency)
      (Locator.resolve other dependency) := by
  have hk := simulates.known? h dependency
  unfold Locator.resolve
  generalize Locator.known? locator dependency = first,
    Locator.known? other dependency = second at hk
  cases hk with
  | some ha => exact ⟨rfl, h, ha⟩
  | none =>
    obtain ⟨hl, ha⟩ := simulates.retry h dependency
    exact ⟨rfl, hl, ha⟩

/-- The services of dependencies that are resolved in turn are bound alike. -/
theorem resolveAll (h : rel locator other) (dependencies : List Dependency) :
    SameLocated rel Eq (Locator.resolveAll locator dependencies)
      (Locator.resolveAll other dependencies) := by
  induction dependencies generalizing locator other with
  | nil => exact ⟨rfl, h, rfl⟩
  | cons dependency rest ih =>
    obtain ⟨hlog, hlocator, hanswer⟩ := simulates.resolve h dependency
    unfold Locator.resolveAll
    generalize hf : (Locator.resolve locator dependency).answer = first,
      hs : (Locator.resolve other dependency).answer = second at hanswer
    cases hanswer with
    | error failure =>
      simp only [hf, hs]
      exact ⟨hlog, hlocator, rfl⟩
    | ok hservice =>
      obtain ⟨hlogs, hlast, hrest⟩ := ih hlocator
      simp only [hf, hs]
      refine ⟨by rw [hlog, hlogs], hlast, ?_⟩
      rw [simulates.interchangeable.new _ _ hservice, hrest]

/-- The first failure among known dependencies is the same. -/
theorem firstFailure? (h : rel locator other) (dependencies : List Dependency) :
    Locator.firstFailure? locator dependencies = Locator.firstFailure? other dependencies := by
  unfold Locator.firstFailure?
  congr 1
  funext dependency
  have hk := simulates.known? h dependency
  generalize Locator.known? locator dependency = first,
    Locator.known? other dependency = second at hk
  cases hk with
  | none => rfl
  | some ha =>
    cases ha with
    | ok _ => rfl
    | error _ => rfl

/-- What was known of the dependencies before may have been found by earlier states of the
locators. -/
theorem finishAll {before : L} {beforeOther : M} (hb : rel before beforeOther)
    (h : rel locator other) (dependencies : List Dependency) :
    let first := Locator.finishAll locator
      (dependencies.map fun d => (d, Locator.known? before d))
    let second := Locator.finishAll other
      (dependencies.map fun d => (d, Locator.known? beforeOther d))
    rel first.1 second.1 ∧ first.2 = second.2 := by
  induction dependencies generalizing locator other with
  | nil => exact ⟨h, rfl⟩
  | cons dependency rest ih =>
    have hk := simulates.known? hb dependency
    have hr := simulates.retry h dependency
    rw [List.map_cons, List.map_cons, finishAll_cons, finishAll_cons]
    generalize Locator.known? before dependency = first,
      Locator.known? beforeOther dependency = second at hk
    have hturn : rel
          (first.elim (Locator.retry locator dependency) fun answer => (locator, answer)).1
          (second.elim (Locator.retry other dependency) fun answer => (other, answer)).1 ∧
        SameAnswer alike
          (first.elim (Locator.retry locator dependency) fun answer => (locator, answer)).2
          (second.elim (Locator.retry other dependency) fun answer => (other, answer)).2 := by
      cases hk with
      | none => exact hr
      | some ha => exact ⟨h, ha⟩
    generalize
      (first.elim (Locator.retry locator dependency) fun answer => (locator, answer)) = turn,
      (second.elim (Locator.retry other dependency) fun answer => (other, answer)) = twin at hturn
    obtain ⟨after, answer⟩ := turn
    obtain ⟨afterOther, answerOther⟩ := twin
    obtain ⟨hl, ha⟩ := hturn
    cases ha with
    | error failure => exact ⟨hl, rfl⟩
    | ok hs =>
      obtain ⟨hlast, hrest⟩ := ih hl
      refine ⟨hlast, ?_⟩
      dsimp only
      rw [simulates.interchangeable.new _ _ hs, hrest]

/-- The services of dependencies that are resolved side by side are bound alike. -/
theorem resolveTogether (h : rel locator other) (dependencies : List Dependency) :
    SameLocated rel Eq (Locator.resolveTogether locator dependencies)
      (Locator.resolveTogether other dependencies) := by
  have hn : ∀ dependency, (Locator.known? locator dependency).isNone =
      (Locator.known? other dependency).isNone := by
    intro dependency
    have hk := simulates.known? h dependency
    generalize Locator.known? locator dependency = first,
      Locator.known? other dependency = second at hk
    cases hk <;> rfl
  unfold Locator.resolveTogether
  simp only [hn, simulates.firstFailure? h]
  split
  · exact ⟨rfl, h, rfl⟩
  · obtain ⟨hl, ha⟩ := simulates.finishAll h h dependencies
    exact ⟨rfl, hl, ha⟩

/-- The same services are bound for dependencies, or the same failure is met, and the same is logged
on the way. -/
theorem bindAll (h : rel locator other) (dependencies : List Dependency) :
    SameLocated rel Eq (Locator.bindAll locator dependencies)
      (Locator.bindAll other dependencies) := by
  have hresolved : SameLocated rel Eq
      (if Locator.takesTime L then Locator.resolveTogether locator dependencies
        else Locator.resolveAll locator dependencies)
      (if Locator.takesTime M then Locator.resolveTogether other dependencies
        else Locator.resolveAll other dependencies) := by
    rw [simulates.takesTime]
    split
    · exact simulates.resolveTogether h dependencies
    · exact simulates.resolveAll h dependencies
  unfold Locator.bindAll
  cases dependencies.find? (isReserved ·.outputKey) with
  | some _ => exact ⟨rfl, h, rfl⟩
  | none =>
    obtain ⟨hlog, hlocator, hanswer⟩ := hresolved
    exact ⟨hlog, hlocator, congrArg (· >>= BoundServices.ofEntries) hanswer⟩

end Simulates
end Locator
end BrickPipeline
