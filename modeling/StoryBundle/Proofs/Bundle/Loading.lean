import StoryBundle.Bundle.Basic
import StoryBundle.Proofs.Except
import StoryBundle.Proofs.Search

/-!
# What is loaded

For each kind of file, what it takes for it to be there: where its path comes from, that it can be
read, and what its bytes have to be. Loading ends in exactly that (`load_eq_ok_iff`). Only a resource
file that was read can be reported as a bad one (`Container.load_eq_badResource_iff`).
-/

namespace StoryBundle

/-- The first program file with a name holds a story. -/
def Story.Found (files : FileSystem) (dirs : SearchDirs) (name : String) (loaded : LoadedStory) :
    Prop :=
  ∃ path data, Search.Located files dirs.programs name path ∧ files.read path = .ok data ∧
    (Story.ofBytes path data).outcome = .ok loaded

/-- The first resource file with a name holds a container that goes with the reference. -/
def Container.Found (files : FileSystem) (dirs : SearchDirs) (reference : Option Bytes)
    (name : String) (container : Container) : Prop :=
  ∃ path data, Search.Located files dirs.programs name path ∧ files.read path = .ok data ∧
    (Container.decode data reference).outcome = .ok container

/-- A settings file that is asked for must be readable. Otherwise the first one in the search
directories counts, and the empty one if none is there. -/
def SettingsFile.Found (files : FileSystem) (dirs : SearchDirs) :
    Option Path → SettingsFile → Prop
  | some path, file => ∃ bytes, files.read path = .ok bytes ∧ ofBytes path bytes = file
  | none, file =>
    (∃ path bytes, Search.Located files dirs.settings standardName path ∧
      files.read path = .ok bytes ∧ ofBytes path bytes = file) ∨
    Search.Absent files dirs.settings standardName ∧ empty = file

variable {files : FileSystem} {dirs : SearchDirs}

theorem FileSystem.load_eq_ok_iff {path : Path} {data : Bytes} :
    files.load path = .ok data ↔ files.read path = .ok data := by
  rw [FileSystem.load, Except.mapError_eq_ok_iff]

theorem Story.load_eq_ok_iff {name : String} {loaded : LoadedStory} :
    (Story.load files dirs name).outcome = .ok loaded ↔ Found files dirs name loaded := by
  simp only [Story.load, Found, Logged.outcome_bind, Logged.outcome_mapError, Logged.outcome_note,
    Logged.outcome_quiet, Except.ok_bind_eq, Except.bind_eq_ok_iff, Except.mapError_eq_ok_iff,
    Search.find_eq_ok_iff, FileSystem.load_eq_ok_iff, exists_and_left]

theorem Container.load_eq_ok_iff {name : String} {reference : Option Bytes}
    {container : Container} :
    (Container.load files dirs name reference).outcome = .ok container ↔
      Found files dirs reference name container := by
  simp only [Container.load, Found, Logged.outcome_bind, Logged.outcome_mapError,
    Logged.outcome_note, Logged.outcome_quiet, Except.ok_bind_eq, Except.bind_eq_ok_iff,
    Except.mapError_eq_ok_iff, Search.find_eq_ok_iff, FileSystem.load_eq_ok_iff, exists_and_left]

theorem FileSystem.load_eq_error_iff {path : Path} {problem : BundleError} :
    files.load path = .error problem ↔
      ∃ cause, files.read path = .error cause ∧ .unreadable path cause = problem := by
  rw [FileSystem.load, Except.mapError_eq_error_iff]

theorem Container.load_eq_badResource_iff {name : String} {reference : Option Bytes} {path : Path}
    {cause : DecodeError} :
    (Container.load files dirs name reference).outcome = .error (.badResource path cause) ↔
      Search.Located files dirs.programs name path ∧ ∃ data, files.read path = .ok data ∧
        (Container.decode data reference).outcome = .error cause := by
  simp only [Container.load, Logged.outcome_bind, Logged.outcome_mapError, Logged.outcome_note,
    Logged.outcome_quiet, Except.ok_bind_eq, Except.bind_eq_error_iff, Except.mapError_eq_error_iff,
    Except.mapError_eq_ok_iff, Search.find_eq_ok_iff, FileSystem.load_eq_ok_iff,
    FileSystem.load_eq_error_iff, BundleError.badResource.injEq]
  constructor
  · rintro (⟨_, _, ⟨⟩⟩ | ⟨found, located, ⟨_, _, ⟨⟩⟩ | ⟨data, content, _, failed, rfl, rfl⟩⟩)
    exact ⟨located, data, content, failed⟩
  · rintro ⟨located, data, content, failed⟩
    exact .inr ⟨path, located, .inr ⟨data, content, cause, failed, rfl, rfl⟩⟩

/-- A program file is never reported as a resource. -/
theorem Story.load_ne_badResource {name : String} {path : Path} {cause : DecodeError} :
    (Story.load files dirs name).outcome ≠ .error (.badResource path cause) := by
  simp only [Story.load, ne_eq, Logged.outcome_bind, Logged.outcome_mapError, Logged.outcome_note,
    Logged.outcome_quiet, Except.ok_bind_eq, Except.bind_eq_error_iff, Except.mapError_eq_error_iff,
    Except.mapError_eq_ok_iff, FileSystem.load_eq_ok_iff, FileSystem.load_eq_error_iff]
  rintro (⟨_, _, ⟨⟩⟩ | ⟨_, _, ⟨_, _, ⟨⟩⟩ | ⟨_, _, _, _, ⟨⟩⟩⟩)

theorem SettingsFile.load_eq_error_iff {path : Path} {problem : BundleError} :
    (SettingsFile.load files path).outcome = .error problem ↔
      ∃ cause, files.read path = .error cause ∧ .settingsUnreadable path cause = problem := by
  simp only [SettingsFile.load, Logged.outcome_bind, Logged.outcome_quiet, Logged.outcome_note,
    Logged.outcome_pure, Except.ok_bind_eq, Except.bind_eq_error_iff, Except.mapError_eq_error_iff,
    reduceCtorEq, and_false, exists_false, or_false]

theorem SettingsFile.load_eq_ok_iff {path : Path} {file : SettingsFile} :
    (SettingsFile.load files path).outcome = .ok file ↔
      ∃ bytes, files.read path = .ok bytes ∧ ofBytes path bytes = file := by
  simp only [SettingsFile.load, Logged.outcome_bind, Logged.outcome_quiet, Logged.outcome_note,
    Logged.outcome_pure, Except.ok_bind_eq, Except.bind_eq_ok_iff, Except.mapError_eq_ok_iff,
    Except.ok.injEq]

theorem SettingsFile.find_eq_ok_iff {file : SettingsFile} :
    (SettingsFile.find files dirs).outcome = .ok file ↔ Found files dirs none file := by
  cases searched : (Search.find files dirs.settings standardName).outcome with
  | ok path =>
    have located := Search.find_eq_ok_iff.mp searched
    have loaded : (SettingsFile.find files dirs).outcome = (SettingsFile.load files path).outcome := by
      simp only [SettingsFile.find, searched, Logged.outcome_bind, Logged.outcome_tell,
        Except.ok_bind_eq]
    rw [loaded, load_eq_ok_iff]
    constructor
    · rintro ⟨bytes, content, rfl⟩
      exact .inl ⟨path, bytes, located, content, rfl⟩
    · rintro (⟨other, bytes, also, content, rfl⟩ | ⟨absent, _⟩)
      · obtain rfl := located.unique also
        exact ⟨bytes, content, rfl⟩
      · exact absurd absent located.not_absent
  | error checked =>
    have absent := (Search.find_eq_error_iff.mp searched).1
    have nothing : (SettingsFile.find files dirs).outcome = .ok empty := by
      simp only [SettingsFile.find, searched, Logged.outcome_bind, Logged.outcome_tell,
        Logged.outcome_pure, Except.ok_bind_eq]
    rw [nothing, Except.ok.injEq]
    constructor
    · rintro rfl
      exact .inr ⟨absent, rfl⟩
    · rintro (⟨path, _, located, _, _⟩ | ⟨_, same⟩)
      · exact absurd absent located.not_absent
      · exact same

namespace Bundle

theorem loadSettings_eq_ok_iff {path? : Option Path} {file : SettingsFile} :
    (loadSettings files dirs path?).outcome = .ok file ↔ SettingsFile.Found files dirs path? file := by
  cases path? with
  | none => exact SettingsFile.find_eq_ok_iff
  | some path => exact SettingsFile.load_eq_ok_iff

/-- Settings fail only where a file cannot be read. -/
theorem loadSettings_eq_error {path? : Option Path} {problem : BundleError}
    (failed : (loadSettings files dirs path?).outcome = .error problem) :
    ∃ path cause, files.read path = .error cause ∧ .settingsUnreadable path cause = problem := by
  cases path? with
  | some path =>
    obtain ⟨cause, unread, same⟩ := SettingsFile.load_eq_error_iff.mp failed
    exact ⟨path, cause, unread, same⟩
  | none =>
    change (SettingsFile.find files dirs).outcome = _ at failed
    cases searched : (Search.find files dirs.settings SettingsFile.standardName).outcome with
    | ok path =>
      simp only [SettingsFile.find, searched, Logged.outcome_bind, Logged.outcome_tell,
        Except.ok_bind_eq] at failed
      obtain ⟨cause, unread, same⟩ := SettingsFile.load_eq_error_iff.mp failed
      exact ⟨path, cause, unread, same⟩
    | error checked =>
      simp only [SettingsFile.find, searched, Logged.outcome_bind, Logged.outcome_tell,
        Logged.outcome_pure, Except.ok_bind_eq, reduceCtorEq] at failed

end Bundle
end StoryBundle
