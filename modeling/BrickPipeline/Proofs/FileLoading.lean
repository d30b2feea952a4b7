import BrickPipeline.Service.Locator

/-!
What a locator gets from its file. The file holds services, or there is one reason why not; opening
and refreshing a locator succeed or fail with the file.
-/
namespace BrickPipeline.FileLocator

open Locator (refresh)

/-- Why a file holds no services: nothing can be read at its path, or no text, or the text is no
list of services. -/
inductive Unreadable : FileContent → Error → Prop where
  | absent (fault : FileFault) : Unreadable (.absent fault) (.io fault.message)
  | notText {bytes : ByteArray} (h : String.fromUTF8? bytes = none) :
    Unreadable (.present bytes) (.io "stream did not contain valid UTF-8")
  | malformed {bytes : ByteArray} {text reason : String} (h : String.fromUTF8? bytes = some text)
    (fault : parse text = .error (.json reason)) : Unreadable (.present bytes) (.json reason)

theorem exists_reason_of_parse {text : String} {fault : Error} (h : parse text = .error fault) :
    ∃ reason, fault = .json reason := by
  unfold parse at h
  split at h
  · cases h
    exact ⟨_, rfl⟩
  · cases hread : Wire.ofText (Wire.list (Service.read .text)) text with
    | ok services =>
      rw [hread] at h
      cases h
    | error reason =>
      rw [hread] at h
      cases h
      exact ⟨reason, rfl⟩

theorem load_present_of_text {bytes : ByteArray} {text : String}
    (h : String.fromUTF8? bytes = some text) : load (.present bytes) = parse text := by
  rw [load, FileContent.text, h]
  rfl

theorem load_present_of_none {bytes : ByteArray} (h : String.fromUTF8? bytes = none) :
    load (.present bytes) = .error (.io "stream did not contain valid UTF-8") := by
  rw [load, FileContent.text, h]
  rfl

/-- A file is not loaded exactly if it holds no services. -/
theorem load_eq_error_iff {file : FileContent} {fault : Error} :
    load file = .error fault ↔ Unreadable file fault := by
  constructor
  · intro h
    cases file with
    | absent reason =>
      cases h
      exact .absent reason
    | present bytes =>
      cases htext : String.fromUTF8? bytes with
      | none =>
        rw [load_present_of_none htext] at h
        cases h
        exact .notText htext
      | some text =>
        rw [load_present_of_text htext] at h
        obtain ⟨reason, rfl⟩ := exists_reason_of_parse h
        exact .malformed htext h
  · rintro (⟨reason⟩ | ⟨htext⟩ | ⟨htext, hparse⟩)
    · rfl
    · exact load_present_of_none htext
    · exact (load_present_of_text htext).trans hparse

theorem openFile_of_ok {file : FileContent} {services : List Service}
    (h : load file = .ok services) : openFile file = .ok ⟨file, services⟩ := by
  rw [openFile, h]
  rfl

theorem openFile_of_error {file : FileContent} {fault : Error} (h : load file = .error fault) :
    openFile file = .error fault := by
  rw [openFile, h]
  rfl

theorem refresh_of_ok {locator : FileLocator} {services : List Service}
    (h : load locator.file = .ok services) : refresh locator = .ok ⟨locator.file, services⟩ := by
  show (do return { locator with known := ← load locator.file } : Except Error FileLocator) = _
  rw [h]
  rfl

theorem refresh_of_error {locator : FileLocator} {fault : Error}
    (h : load locator.file = .error fault) : refresh locator = .error fault := by
  show (do return { locator with known := ← load locator.file } : Except Error FileLocator) = _
  rw [h]
  rfl

/-- A refresh takes what is in the file. -/
theorem load_of_refresh {before after : FileLocator} (h : refresh before = .ok after) :
    load before.file = .ok after.known ∧ after.file = before.file := by
  cases hload : load before.file with
  | error fault =>
    rw [refresh_of_error hload] at h
    cases h
  | ok services =>
    rw [refresh_of_ok hload] at h
    cases h
    exact ⟨rfl, rfl⟩

theorem unreadable_of_refresh {locator : FileLocator} {fault : Error}
    (h : refresh locator = .error fault) : Unreadable locator.file fault := by
  cases hload : load locator.file with
  | error reason =>
    rw [refresh_of_error hload] at h
    cases h
    exact load_eq_error_iff.1 hload
  | ok services =>
    rw [refresh_of_ok hload] at h
    cases h

end BrickPipeline.FileLocator
