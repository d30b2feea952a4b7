import BrickPipeline.Proofs.Refreshes

/-!
What a locator with a file answers from in the course of time. The file may come, go and be broken:
the locator knows what was in it when it was last read with success, and a failure to read it
changes nothing.
-/
namespace BrickPipeline

namespace FileLocator

open Locator (Refreshed Counted refresh resolve accept refreshEntry refreshes)

/-- A locator that is never refreshed is as it was; however often it is refreshed, it knows what is
in the file. -/
theorem refreshed_cases {before after : Counted FileLocator} (h : Refreshed before after) :
    after = before ∨ before.refreshes < after.refreshes ∧
      load before.locator.file = .ok after.locator.known ∧
      after.locator.file = before.locator.file := by
  induction h with
  | start => exact .inl rfl
  | @again middle after _ made ih =>
    -- No refresh changes the file, so the last one reads what the first one would have read.
    obtain ⟨hmade, hcount⟩ := Counted.refreshed_of_ok made
    obtain ⟨hload, hfile⟩ := load_of_refresh hmade
    rcases ih with rfl | ⟨hlt, -, hsame⟩
    · exact .inr ⟨by omega, hload, hfile⟩
    · exact .inr ⟨by omega, hsame ▸ hload, hfile.trans hsame⟩

/-- A request leaves a locator as it is, or lets it know what is in the file. -/
theorem after_cases (locator : FileLocator) (request : Locator.Request) :
    refreshes locator request = 0 ∧ Locator.after locator request = locator ∨
      0 < refreshes locator request ∧
        load locator.file = .ok (Locator.after locator request).known ∧
        (Locator.after locator request).file = locator.file := by
  -- The counter is needed: a refresh that reads what was known leaves no other trace.
  have hlocator := Counted.locator_after (⟨locator, 0⟩ : Counted FileLocator) request
  have hcases := refreshed_cases (Refreshed.after (⟨locator, 0⟩ : Counted FileLocator) request)
  rw [hlocator] at hcases
  rcases hcases with hsame | hread
  · rw [hsame] at hlocator
    exact .inl ⟨congrArg Counted.refreshes hsame, hlocator.symm⟩
  · exact .inr hread

/-- No request changes a locator whose file holds no services. -/
theorem after_of_error {locator : FileLocator} {fault : Error}
    (h : load locator.file = .error fault) (request : Locator.Request) :
    Locator.after locator request = locator := by
  rcases after_cases locator request with ⟨-, hsame⟩ | ⟨-, hload, -⟩
  · exact hsame
  · rw [h] at hload
    cases hload

/-- What can happen to a file and the locator with it. -/
inductive Event where
  /-- The file is written, deleted or replaced. -/
  | changed (content : FileContent)
  | opened
  | asked (request : Locator.Request)

/-- A file, and the locator that is open with it. -/
structure State where
  file : FileContent
  locator : Option FileLocator

namespace State

/-- The state after an event. If a locator cannot be opened, the one that was open stays. -/
def next (state : State) : Event → State
  | .changed content => ⟨content, state.locator.map (·.withFile content)⟩
  | .opened =>
    match openFile state.file with
    | .ok locator => ⟨state.file, some locator⟩
    | .error _ => state
  | .asked request => ⟨state.file, state.locator.map (Locator.after · request)⟩

/-- The state after a course of events. -/
def run (state : State) (events : List Event) : State :=
  events.foldl next state

/-- Whether an event reads the file with success, to open a locator or to refresh the open one. -/
def reads (state : State) : Event → Bool
  | .changed _ => false
  | .opened => (load state.file).isOk
  | .asked request => state.locator.any fun locator => 0 < refreshes locator request

/-- What was in the file when it was last read with success in a course of events. -/
def lastRead? (state : State) : List Event → Option FileContent
  | [] => none
  | event :: rest =>
    ((state.next event).lastRead? rest).or (if state.reads event then some state.file else none)

/-- A locator is open if the file was read, it has the file, and it knows what was read. -/
structure Faithful (state : State) (source : Option FileContent) : Prop where
  file : ∀ locator, state.locator = some locator → locator.file = state.file
  known : state.locator.map (fun locator => Except.ok (Locator.services locator)) = source.map load

namespace Faithful

variable {state : State} {source : Option FileContent}

theorem changed (faithful : Faithful state source) (content : FileContent) :
    Faithful (state.next (.changed content)) source where
  file := by
    intro locator h
    obtain ⟨before, -, rfl⟩ := Option.map_eq_some_iff.1 h
    rfl
  known := by
    rw [← faithful.known]
    exact Option.map_map _ _ _

theorem opened (faithful : Faithful state source) :
    Faithful (state.next .opened) (if state.reads .opened then some state.file else source) := by
  cases hload : load state.file with
  | error fault =>
    rw [next, openFile_of_error hload, reads, hload]
    exact faithful
  | ok services =>
    rw [next, openFile_of_ok hload, reads, hload]
    refine ⟨fun locator h => ?_, congrArg some hload.symm⟩
    cases h
    rfl

theorem asked (faithful : Faithful state source) (request : Locator.Request) :
    Faithful (state.next (.asked request))
      (if state.reads (.asked request) then some state.file else source) := by
  obtain ⟨file, locator⟩ := state
  cases locator with
  | none => exact faithful
  | some locator =>
    have hfile : locator.file = file := faithful.file locator rfl
    rcases after_cases locator request with ⟨hnone, hsame⟩ | ⟨hsome, hload, hkept⟩
    · have hreads : reads ⟨file, some locator⟩ (.asked request) = false := by simp [reads, hnone]
      have hnext : next ⟨file, some locator⟩ (.asked request) = ⟨file, some locator⟩ := by
        rw [next, Option.map_some, hsame]
      rw [hreads, hnext]
      exact faithful
    · have hreads : reads ⟨file, some locator⟩ (.asked request) = true := by simp [reads, hsome]
      rw [hreads]
      refine ⟨fun after h => ?_, congrArg some (hfile ▸ hload.symm)⟩
      cases h
      exact hkept.trans hfile

/-- An event that reads the file lets the locator know what is in it, and no other event does
anything to what it knows. -/
theorem next (faithful : Faithful state source) (event : Event) :
    Faithful (state.next event) (if state.reads event then some state.file else source) := by
  cases event with
  | changed content => exact faithful.changed content
  | opened => exact faithful.opened
  | asked request => exact faithful.asked request

theorem run (faithful : Faithful state source) (events : List Event) :
    Faithful (state.run events) ((state.lastRead? events).or source) := by
  induction events generalizing state source with
  | nil => exact faithful
  | cons event rest ih =>
    have hrest := ih (faithful.next event)
    have hsource : (state.lastRead? (event :: rest)).or source =
        ((state.next event).lastRead? rest).or
          (if state.reads event then some state.file else source) := by
      rw [lastRead?, Option.or_assoc]
      split <;> rfl
    rw [hsource]
    exact hrest

end Faithful

/-- If the file holds no services, nothing but the file can change. -/
theorem next_of_unreadable {state : State} {source : Option FileContent}
    (faithful : Faithful state source) {fault : Error} (h : load state.file = .error fault) :
    state.next .opened = state ∧ ∀ request, state.next (.asked request) = state := by
  constructor
  · rw [next, openFile_of_error h]
  · intro request
    obtain ⟨file, locator⟩ := state
    cases locator with
    | none => rfl
    | some locator =>
      have hfile : locator.file = file := faithful.file locator rfl
      rw [next, Option.map_some, after_of_error (hfile ▸ h)]

end State

/-- In every course of events, a locator is open if the file was read with success to open one, and
it answers from the services that were in the file when it was last read with success. While the
file holds services, opening and refreshing take those; while it is absent, no text or malformed,
both fail for just that reason, and no request changes anything. A dependency is answered from what
the locator knows if that matches, without a refresh; else from the file, which is read once more;
and if that fails, with the failure, and the locator stays as it was. -/
theorem history_faithful (file : FileContent) (events : List Event) :
    let start : State := ⟨file, none⟩
    let state := start.run events
    state.locator.map (fun locator => Except.ok (Locator.services locator)) =
        (start.lastRead? events).map load ∧
      (∀ services, load state.file = .ok services →
        openFile state.file = .ok ⟨state.file, services⟩ ∧
        ∀ locator, state.locator = some locator →
          refresh locator = .ok ⟨state.file, services⟩) ∧
      (∀ fault, Unreadable state.file fault →
        openFile state.file = .error fault ∧
        (∀ locator, state.locator = some locator → refresh locator = .error fault) ∧
        state.next .opened = state ∧ ∀ request, state.next (.asked request) = state) ∧
      ∀ locator, state.locator = some locator → ∀ dependency,
        let found := fun services =>
          Service.find? services dependency.integrationId dependency.configId
        (∀ service, found (Locator.services locator) = some service →
          resolve locator dependency = ⟨[], locator, accept dependency service⟩ ∧
            refreshes locator (.resolve dependency) = 0) ∧
        (found (Locator.services locator) = none →
          (∀ services, load state.file = .ok services →
            resolve locator dependency =
                ⟨[refreshEntry dependency], ⟨state.file, services⟩,
                  (found services).elim
                    (.error (.integrationNotFound dependency.integrationId dependency.configId))
                    (accept dependency)⟩ ∧
              refreshes locator (.resolve dependency) = 1) ∧
          ∀ fault, load state.file = .error fault →
            resolve locator dependency = ⟨[refreshEntry dependency], locator, .error fault⟩) := by
  intro start state
  have hstart : State.Faithful start none := ⟨nofun, rfl⟩
  have faithful : State.Faithful state (start.lastRead? events) := by
    have hrun := hstart.run events
    rwa [Option.or_none] at hrun
  have hrefresh : ∀ locator, state.locator = some locator → ∀ services,
      load state.file = .ok services → refresh locator = .ok ⟨state.file, services⟩ := by
    intro locator hopen services hload
    rw [← faithful.file locator hopen] at hload ⊢
    exact refresh_of_ok hload
  have hfail : ∀ locator, state.locator = some locator → ∀ fault,
      load state.file = .error fault → refresh locator = .error fault :=
    fun locator hopen fault hload =>
      refresh_of_error ((faithful.file locator hopen).symm ▸ hload)
  refine ⟨faithful.known, fun services hload => ?_, fun fault unreadable => ?_,
    fun locator hopen dependency => ?_⟩
  · exact ⟨openFile_of_ok hload, fun locator hopen => hrefresh locator hopen services hload⟩
  · have hload : load state.file = .error fault := load_eq_error_iff.2 unreadable
    exact ⟨openFile_of_error hload, fun locator hopen => hfail locator hopen fault hload,
      State.next_of_unreadable faithful hload⟩
  · intro found
    refine ⟨fun service hfound => ?_, fun hnone => ?_⟩
    · have hknown := Locator.known?_of_found hfound
      exact ⟨Locator.resolve_of_known hknown, Locator.refreshes_resolve_of_known hknown⟩
    · have hunknown := Locator.known?_of_not_found hnone
      refine ⟨fun services hload => ?_, fun fault hload => ?_⟩
      · have made := hrefresh locator hopen services hload
        exact ⟨Locator.resolve_of_refresh hunknown made,
          Locator.refreshes_resolve_of_unknown hunknown made⟩
      · have failed := hfail locator hopen fault hload
        rw [Locator.resolve_of_unknown hunknown, Locator.retry_of_error failed]

theorem history_faithful_sample :
    let sheets : FileContent :=
      .ofText "[\x7b\"id\":\"cfg-1\",\"integrationId\":\"google/sheet\"\x7d]"
    let broken : FileContent := .ofText "[\x7bnot json"
    let chat : Dependency := ⟨"slack/webhook", "chat", none⟩
    let start : State := ⟨.missing, none⟩
    let events : List Event := [.opened, .changed sheets, .opened, .changed broken,
      .asked .refresh, .asked (.resolve chat), .asked (.bindAll [chat]), .changed .missing]
    let state := start.run events
    (∃ locator content, state.locator = some locator ∧ start.lastRead? events = some content ∧
        load content = .ok (Locator.services locator) ∧
        (Locator.services locator).map (·.id) = ["cfg-1"]) ∧
      Unreadable state.file (.io "No such file or directory (os error 2)") ∧
      state.next .opened = state ∧ ∀ request, state.next (.asked request) = state := by
  intro sheets broken chat start events state
  obtain ⟨hknown, -, hfaults, -⟩ := history_faithful .missing events
  have unreadable : Unreadable state.file (.io FileFault.missing.message) := .absent .missing
  refine ⟨?_, unreadable, (hfaults _ unreadable).2.2⟩
  have hids : state.locator.map (fun locator => (Locator.services locator).map (·.id)) =
      some ["cfg-1"] := by decide +kernel
  obtain ⟨locator, hopen, hid⟩ := Option.map_eq_some_iff.1 hids
  have hread : (start.lastRead? events).map load = some (.ok (Locator.services locator)) := by
    have hrun : (State.run ⟨.missing, none⟩ events).locator = some locator := hopen
    rw [← hknown, hrun]
    rfl
  obtain ⟨content, hcontent, hload⟩ := Option.map_eq_some_iff.1 hread
  exact ⟨locator, content, hopen, hcontent, hload, hid⟩

end FileLocator
end BrickPipeline
