import StoryBundle.Container.Layout
import StoryBundle.FileSystem.Snapshot
import StoryBundle.Proofs.Bundle.Loading
import StoryBundle.Proofs.Repeats
import StoryBundle.Proofs.Story.Header

/-!
# What a bundle is gathered from

A bundle is there exactly if all of its parts are (`gather_eq_ok_iff`), and then the parts decide
everything in it (`gather_exact`).
-/

namespace StoryBundle.Bundle

/-- What is loaded for a bundle. -/
structure Parts where
  loaded : LoadedStory
  supplied? : Option Container
  file : SettingsFile
  configured? : Option Container

namespace Parts

def image (parts : Parts) : Bytes := parts.loaded.story.image

/-- The release and the serial at their places in the image. -/
def title (parts : Parts) : TitleId :=
  .of (Bytes.word16 ((parts.image.drop 0x02).take 2)) ((parts.image.drop 0x12).take 6)

def settings (parts : Parts) : Settings := parts.file.settingsFor parts.title

/-- The resource file that the settings name. -/
def configuredName? (parts : Parts) : Option String :=
  if parts.settings.blorb = "" then none else some parts.settings.blorb

/-- The containers in the order in which they are loaded. -/
def containers (parts : Parts) : List Container :=
  parts.loaded.container?.toList ++ parts.supplied?.toList ++ parts.configured?.toList

theorem length_containers_le (parts : Parts) : parts.containers.length ≤ 3 := by
  have one (container? : Option Container) : container?.toList.length ≤ 1 := by
    cases container? <;> simp
  have own := one parts.loaded.container?
  have supplied := one parts.supplied?
  have configured := one parts.configured?
  rw [containers, List.length_append, List.length_append]
  omega

/-- The parts are those that a request leads to. -/
structure Fit (files : FileSystem) (dirs : SearchDirs) (request : Request) (parts : Parts) :
    Prop where
  program : Story.Found files dirs request.program parts.loaded
  header : Header.size ≤ parts.image.length
  supplied : Option.Rel (Container.Found files dirs (some parts.image)) request.resource?
    parts.supplied?
  settings : SettingsFile.Found files dirs request.settings? parts.file
  configured : Option.Rel (Container.Found files dirs none) parts.configuredName? parts.configured?

end Parts

variable {files : FileSystem} {dirs : SearchDirs} {request : Request}

theorem load_singleton_eq_ok_iff {reference : Option Bytes} {name : String}
    {containers : List Container} :
    (do let container ← Container.load files dirs name reference
        pure [container] : Logged BundleError (List Container)).outcome = .ok containers ↔
      ∃ container, Container.Found files dirs reference name container ∧
        [container] = containers := by
  simp only [Logged.outcome_bind, Logged.outcome_pure, Except.bind_eq_ok_iff,
    Container.load_eq_ok_iff, Except.ok.injEq]

theorem exists_of_rel_some {found : String → Container → Prop} {name : String}
    {container? : Option Container} (loaded : Option.Rel found (some name) container?) :
    ∃ container, container? = some container ∧ found name container := by
  cases loaded with
  | some present => exact ⟨_, rfl, present⟩

/-- No container is loaded without a name, and one for a name. -/
theorem exists_rel_toList_iff {found : String → Container → Prop} {name? : Option String}
    {containers : List Container} :
    (∃ container?, Option.Rel found name? container? ∧ container?.toList = containers) ↔
      match name? with
      | none => [] = containers
      | some name => ∃ container, found name container ∧ [container] = containers := by
  cases name? with
  | none =>
    constructor
    · rintro ⟨_, ⟨⟩, same⟩
      exact same
    · intro same
      exact ⟨none, .none, same⟩
  | some name =>
    constructor
    · rintro ⟨_, loaded, same⟩
      obtain ⟨container, rfl, present⟩ := exists_of_rel_some loaded
      exact ⟨container, present, same⟩
    · rintro ⟨container, present, same⟩
      exact ⟨some container, .some present, same⟩

theorem loadSupplied_eq_ok_iff {story : Story} {name? : Option String}
    {containers : List Container} :
    (loadSupplied files dirs story name?).outcome = .ok containers ↔
      ∃ supplied?, Option.Rel (Container.Found files dirs (some story.image)) name? supplied? ∧
        supplied?.toList = containers := by
  rw [exists_rel_toList_iff]
  cases name? with
  | none => rw [loadSupplied, Logged.outcome_pure, Except.ok.injEq]
  | some name => exact load_singleton_eq_ok_iff

theorem loadConfigured_eq_ok_iff {settings : Settings} {containers : List Container} :
    (loadConfigured files dirs settings).outcome = .ok containers ↔
      ∃ configured?, Option.Rel (Container.Found files dirs none)
          (if settings.blorb = "" then none else some settings.blorb) configured? ∧
        configured?.toList = containers := by
  rw [exists_rel_toList_iff, loadConfigured]
  split
  · rw [Logged.outcome_pure, Except.ok.injEq]
  · exact load_singleton_eq_ok_iff

theorem prepare_eq_ok_iff {bundle : Bundle} :
    (prepare files dirs request).outcome = .ok bundle ↔
      ∃ loaded supplied? file title, Story.Found files dirs request.program loaded ∧
        Option.Rel (Container.Found files dirs (some loaded.story.image)) request.resource?
          supplied? ∧
        TitleId.read loaded.story.image = .ok title ∧
        SettingsFile.Found files dirs request.settings? file ∧
        ⟨loaded.story, loaded.container?.toList ++ supplied?.toList, file.settingsFor title, title⟩ =
          bundle := by
  simp only [prepare, Logged.outcome_bind, Logged.outcome_quiet, Logged.outcome_pure,
    SettingsFile.outcome_resolve, Except.ok_bind_eq, Except.bind_eq_ok_iff,
    Except.mapError_eq_ok_iff, Story.load_eq_ok_iff, loadSupplied_eq_ok_iff,
    loadSettings_eq_ok_iff, Story.title, Except.ok.injEq]
  constructor
  · rintro ⟨loaded, program, _, ⟨supplied?, supplied, rfl⟩, title, header, file, settings, rfl⟩
    exact ⟨loaded, supplied?, file, title, program, supplied, header, settings, rfl⟩
  · rintro ⟨loaded, supplied?, file, title, program, supplied, header, settings, rfl⟩
    exact ⟨loaded, program, _, ⟨supplied?, supplied, rfl⟩, title, header, file, settings, rfl⟩

theorem gather_eq_ok_iff {bundle : Bundle} :
    (gather files dirs request).outcome = .ok bundle ↔
      ∃ parts : Parts, parts.Fit files dirs request ∧
        ⟨parts.loaded.story, firstOfEach Container.data parts.containers, parts.settings,
          parts.title⟩ = bundle := by
  simp only [gather, keepDistinct, Logged.outcome_bind, Logged.outcome_pure, Except.ok_bind_eq,
    Except.bind_eq_ok_iff, prepare_eq_ok_iff, loadConfigured_eq_ok_iff, Except.ok.injEq]
  constructor
  · rintro ⟨_, ⟨loaded, supplied?, file, _, program, supplied, read, settings, rfl⟩, _,
      ⟨configured?, configured, rfl⟩, rfl⟩
    obtain ⟨header, rfl⟩ := TitleId.read_eq_ok_iff.mp read
    exact ⟨⟨loaded, supplied?, file, configured?⟩,
      ⟨program, header, supplied, settings, configured⟩, rfl⟩
  · rintro ⟨parts, ⟨program, header, supplied, settings, configured⟩, rfl⟩
    have read := TitleId.read_eq_ok_iff.mpr ⟨header, rfl⟩
    exact ⟨_, ⟨parts.loaded, parts.supplied?, parts.file, _, program, supplied, read, settings,
      rfl⟩, _, ⟨parts.configured?, configured, rfl⟩, rfl⟩

/-- A bundle is there exactly if its parts are, and holds nothing but what they lead to. -/
theorem gather_exact (files : FileSystem) (dirs : SearchDirs) (request : Request) :
    ((∃ bundle, (gather files dirs request).outcome = .ok bundle) ↔
      ∃ parts : Parts, parts.Fit files dirs request) ∧
    ∀ parts : Parts, parts.Fit files dirs request →
      ∀ bundle, (gather files dirs request).outcome = .ok bundle →
        bundle.story = parts.loaded.story ∧ bundle.title = parts.title ∧
        bundle.settings = parts.file.settingsFor bundle.title ∧
        bundle.containers = firsts Container.data parts.containers ∧
        bundle.containers.Sublist parts.containers ∧ bundle.containers.length ≤ 3 ∧
        bundle.containers.Pairwise fun left right => left.data ≠ right.data := by
  refine ⟨⟨?_, ?_⟩, ?_⟩
  · rintro ⟨bundle, gathered⟩
    obtain ⟨parts, fit, _⟩ := gather_eq_ok_iff.mp gathered
    exact ⟨parts, fit⟩
  · rintro ⟨parts, fit⟩
    exact ⟨_, gather_eq_ok_iff.mpr ⟨parts, fit, rfl⟩⟩
  · intro parts fit bundle gathered
    -- Any parts that fit give the outcome of the one run, so they need not be shown to be unique.
    have assembled := gather_eq_ok_iff.mpr ⟨parts, fit, rfl⟩
    rw [gathered, Except.ok.injEq] at assembled
    subst assembled
    have sublist : (firstOfEach Container.data parts.containers).Sublist parts.containers :=
      firstOfEach_sublist parts.containers
    exact ⟨rfl, rfl, rfl, firstOfEach_eq_firsts parts.containers, sublist,
      Nat.le_trans sublist.length_le parts.length_containers_le,
      pairwise_firstOfEach parts.containers⟩

/-- The image of a story with release 88 and serial 840726. -/
def sampleImage : Bytes :=
  [3, 0, 0, 88] ++ List.replicate 14 0 ++ [0x38, 0x34, 0x30, 0x37, 0x32, 0x36] ++
    List.replicate 4 0 ++ [0xA1, 0x29]

def sampleProgram : Bytes :=
  Layout.file [⟨Tag.executable, 0, ⟨Tag.zcode, sampleImage⟩⟩] []

/-- A container that states the identity of the sample story. -/
def samplePictures : Bytes :=
  Layout.file [] [⟨Tag.storyIdentity,
    [0, 88, 0x38, 0x34, 0x30, 0x37, 0x32, 0x36, 0xA1, 0x29, 0, 0, 0]⟩]

/-- The settings name the same container as the sample request. -/
def sampleFiles : FileSystem :=
  Snapshot.fileSystem
    ⟨[("/s/zork", ⟨true, .ok sampleProgram⟩), ("/s/pictures", ⟨true, .ok samplePictures⟩),
      ("/s/.quendor", ⟨true, .ok "blorb: pictures".toUTF8.toList⟩)], []⟩

def sampleDirs : SearchDirs := ⟨["/s"], ["/s"]⟩

def sampleRequest : Request := ⟨"zork", some "pictures", none⟩

def sampleBundle : Bundle where
  story := ⟨"/s/zork", .wrapped, sampleImage⟩
  containers := [⟨sampleProgram, [⟨Tag.executable, 0, 36⟩], 0, none⟩,
    ⟨samplePictures, [], 0, some sampleImage⟩]
  settings := { Settings.none with blorb := "pictures" }
  title := ⟨"88.840726"⟩

theorem gather_sampleRequest :
    (gather sampleFiles sampleDirs sampleRequest).outcome = .ok sampleBundle := by
  decide +kernel

theorem gather_exact_sample :
    (gather sampleFiles sampleDirs sampleRequest).outcome = .ok sampleBundle ∧
      ∃ parts : Parts, parts.Fit sampleFiles sampleDirs sampleRequest ∧
        sampleBundle.containers = firsts Container.data parts.containers := by
  obtain ⟨present, decided⟩ := gather_exact sampleFiles sampleDirs sampleRequest
  obtain ⟨parts, fit⟩ := present.mp ⟨_, gather_sampleRequest⟩
  obtain ⟨_, _, _, containers, _⟩ := decided parts fit _ gather_sampleRequest
  exact ⟨gather_sampleRequest, parts, fit, containers⟩

end StoryBundle.Bundle
