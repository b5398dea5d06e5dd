import StoryBundle.Proofs.Bundle.Gathering
import StoryBundle.Proofs.Container.Decoding
import StoryBundle.Proofs.Container.Identity
import StoryBundle.Proofs.Story.Header

/-!
# Which file is to blame

A report of a bad resource names a file that was decoded, and its cause is a fault of that file with
one exception (`badResource_blame`): a resource that states an identity has it compared with the
header of the story, and if the story ends within its header, the resource is named for it.
-/

namespace StoryBundle

/-- The cause is a fault of the resource itself: it does not decode on its own, or it ends within
the identity that it states, or that identity and the header of the story differ. -/
def Container.AtFault (data story : Bytes) (cause : DecodeError) : Prop :=
  (∃ alone, (Container.decode data none).outcome = .error alone) ∨
  (∃ at_, locate? data Tag.storyIdentity = some at_ ∧
    data.length < at_ + chunkHeaderSize + 10) ∨
  ∃ at_ identity header, locate? data Tag.storyIdentity = some at_ ∧
    Identity.read data at_ = .ok identity ∧ Header.read story = .ok header ∧
    identity.mismatches header ≠ [] ∧ .identityMismatch (identity.mismatches header) = cause

/-- The resource is sound and states its identity in full, but the story ends within its header. -/
def Container.Accused (data story : Bytes) (cause : DecodeError) : Prop :=
  (∃ container, (Container.decode data none).outcome = .ok container) ∧
  (∃ at_ identity, locate? data Tag.storyIdentity = some at_ ∧
    Identity.read data at_ = .ok identity) ∧
  story ≠ [] ∧ story.length < Header.size ∧ Header.read story = .error cause

/-- What a story adds to the faults that a container has on its own. -/
theorem Container.fault_of_decode {data story : Bytes} {cause : DecodeError}
    (failed : (decode data (some story)).outcome = .error cause) :
    AtFault data story cause ∨ Accused data story cause := by
  cases sound : (decode data none).outcome with
  | error alone => exact .inl (.inl ⟨alone, sound⟩)
  | ok container =>
    -- Alone the container passes each stage but the comparison, so that is where it failed.
    obtain ⟨at_, indexed, listed, _, released, _⟩ := decode_eq_ok_iff.mp sound
    have refused : (checkReference data (keptReference (some story))).outcome = .error cause := by
      rcases decode_eq_error_iff.mp failed with ⟨absent, _⟩ | ⟨other, also, failed⟩
      · rw [absent] at indexed
        cases indexed
      · rw [indexed, Option.some.injEq] at also
        subst also
        rw [listed, released] at failed
        rcases failed with failed | ⟨_, refused | ⟨_, failed⟩⟩
        · cases failed
        · exact refused
        · cases failed
    cases kept : keptReference (some story) with
    | none =>
      rw [kept] at refused
      cases refused
    | some reference =>
      obtain ⟨same, present⟩ := keptReference_eq_some_iff.mp kept
      rw [Option.some.injEq] at same
      subst same
      rw [kept] at refused
      obtain ⟨place, stated, differs⟩ := Identity.check_eq_error_iff.mp refused
      rcases Identity.compare_eq_error_iff.mp differs with
        ⟨short, _⟩ | ⟨identity, read, cut | ⟨header, started, mismatches, named⟩⟩
      · exact .inl (.inr (.inl ⟨place, stated, short⟩))
      · exact .inr ⟨⟨container, sound⟩, ⟨place, identity, stated, read⟩, present,
          Header.exists_error_iff.mp ⟨cause, cut⟩, cut⟩
      · exact .inl (.inr (.inr ⟨place, identity, header, stated, read, started, mismatches, named⟩))

/-- A container that states no identity goes with any story, and any container with an empty one. -/
theorem Container.exists_decode_of_unchecked {data story : Bytes} {alone : Container}
    (sound : (decode data none).outcome = .ok alone)
    (unchecked : story = [] ∨ locate? data Tag.storyIdentity = none) :
    ∃ container, (decode data (some story)).outcome = .ok container := by
  obtain ⟨at_, indexed, listed, _, released, _, _⟩ := decode_eq_ok_iff.mp sound
  have passed : (checkReference data (keptReference (some story))).outcome = .ok () := by
    cases kept : keptReference (some story) with
    | none => rfl
    | some reference =>
      obtain ⟨same, present⟩ := keptReference_eq_some_iff.mp kept
      rcases unchecked with empty | absent
      · rw [Option.some.injEq] at same
        exact absurd (same ▸ empty) present
      · refine Identity.check_eq_ok_iff.mpr fun other stated => ?_
        rw [absent] at stated
        cases stated
  exact ⟨⟨data, alone.index, alone.release, keptReference (some story)⟩,
    decode_eq_ok_iff.mpr ⟨at_, indexed, listed, passed, released, rfl, rfl⟩⟩

namespace Bundle

variable {files : FileSystem} {dirs : SearchDirs} {request : Request}

theorem load_singleton_eq_error_iff {reference : Option Bytes} {name : String}
    {problem : BundleError} :
    (do let container ← Container.load files dirs name reference
        pure [container] : Logged BundleError (List Container)).outcome = .error problem ↔
      (Container.load files dirs name reference).outcome = .error problem := by
  simp only [Logged.outcome_bind, Logged.outcome_pure, Except.bind_eq_error_iff, reduceCtorEq,
    and_false, exists_false, or_false]

theorem loadSupplied_eq_error_iff {story : Story} {name? : Option String} {problem : BundleError} :
    (loadSupplied files dirs story name?).outcome = .error problem ↔
      ∃ name, name? = some name ∧
        (Container.load files dirs name (some story.image)).outcome = .error problem := by
  cases name? with
  | none => simp [loadSupplied]
  | some name =>
    rw [loadSupplied, load_singleton_eq_error_iff]
    simp

theorem loadConfigured_eq_error_iff {settings : Settings} {problem : BundleError} :
    (loadConfigured files dirs settings).outcome = .error problem ↔ settings.blorb ≠ "" ∧
      (Container.load files dirs settings.blorb none).outcome = .error problem := by
  rw [loadConfigured]
  split
  · rename_i unset
    simp [unset]
  · rename_i set
    rw [load_singleton_eq_error_iff]
    simp [set]

/-- The stages of preparing a bundle in order. -/
theorem prepare_eq_error_iff {problem : BundleError} :
    (prepare files dirs request).outcome = .error problem ↔
      (Story.load files dirs request.program).outcome = .error problem ∨
      ∃ loaded, Story.Found files dirs request.program loaded ∧
        ((loadSupplied files dirs loaded.story request.resource?).outcome = .error problem ∨
        ∃ supplied, (loadSupplied files dirs loaded.story request.resource?).outcome =
            .ok supplied ∧
          ((∃ cause, TitleId.read loaded.story.image = .error cause ∧
              .badProgram loaded.story.path cause = problem) ∨
            (∃ title, TitleId.read loaded.story.image = .ok title) ∧
              (loadSettings files dirs request.settings?).outcome = .error problem)) := by
  simp only [prepare, Logged.outcome_bind, Logged.outcome_quiet, Logged.outcome_pure,
    SettingsFile.outcome_resolve, Except.ok_bind_eq, Except.bind_eq_error_iff,
    Except.mapError_eq_error_iff, Except.mapError_eq_ok_iff, Story.load_eq_ok_iff, Story.title,
    reduceCtorEq, and_false, exists_false, or_false, exists_and_right]

theorem gather_eq_error_iff {problem : BundleError} :
    (gather files dirs request).outcome = .error problem ↔
      (prepare files dirs request).outcome = .error problem ∨
      ∃ bundle, (prepare files dirs request).outcome = .ok bundle ∧
        (loadConfigured files dirs bundle.settings).outcome = .error problem := by
  simp only [gather, keepDistinct, Logged.outcome_bind, Logged.outcome_pure, Except.ok_bind_eq,
    Except.bind_eq_error_iff, reduceCtorEq, and_false, exists_false, or_false]

/-- A bad resource was decoded with the image of the story or with nothing. -/
theorem decode_of_badResource {path : Path} {cause : DecodeError}
    (failed : (gather files dirs request).outcome = .error (.badResource path cause)) :
    ∃ loaded data, Story.Found files dirs request.program loaded ∧ files.read path = .ok data ∧
      ((Container.decode data (some loaded.story.image)).outcome = .error cause ∨
        (Container.decode data none).outcome = .error cause) := by
  rcases gather_eq_error_iff.mp failed with failed | ⟨bundle, prepared, failed⟩
  · rcases prepare_eq_error_iff.mp failed with failed | ⟨loaded, found, stage⟩
    · exact absurd failed Story.load_ne_badResource
    · rcases stage with failed | ⟨_, _, ⟨_, _, ⟨⟩⟩ | ⟨_, failed⟩⟩
      · obtain ⟨name, _, failed⟩ := loadSupplied_eq_error_iff.mp failed
        obtain ⟨_, data, content, refused⟩ := Container.load_eq_badResource_iff.mp failed
        exact ⟨loaded, data, found, content, .inl refused⟩
      · obtain ⟨_, _, _, ⟨⟩⟩ := loadSettings_eq_error failed
  · obtain ⟨loaded, _, _, _, found, _⟩ := prepare_eq_ok_iff.mp prepared
    obtain ⟨_, failed⟩ := loadConfigured_eq_error_iff.mp failed
    obtain ⟨_, data, content, refused⟩ := Container.load_eq_badResource_iff.mp failed
    exact ⟨loaded, data, found, content, .inr refused⟩

/-- A report of a bad resource names a file that is at fault, unless the story ends within its
header and the resource states an identity. Where it states none, a story that ends within its
header is reported as a bad program. -/
theorem badResource_blame (files : FileSystem) (dirs : SearchDirs) (request : Request) :
    (∀ path cause, (gather files dirs request).outcome = .error (.badResource path cause) →
      ∃ loaded data, Story.Found files dirs request.program loaded ∧ files.read path = .ok data ∧
        (Container.AtFault data loaded.story.image cause ∨
          Container.Accused data loaded.story.image cause)) ∧
    ∀ loaded, Story.Found files dirs request.program loaded →
      loaded.story.image.length < Header.size →
      (∀ name, request.resource? = some name → ∃ container,
        Container.Found files dirs none name container ∧
          (loaded.story.image = [] ∨ locate? container.data Tag.storyIdentity = none)) →
      ∃ cause, Header.read loaded.story.image = .error cause ∧
        (gather files dirs request).outcome = .error (.badProgram loaded.story.path cause) := by
  constructor
  · intro path cause failed
    obtain ⟨loaded, data, found, content, refused⟩ := decode_of_badResource failed
    refine ⟨loaded, data, found, content, ?_⟩
    rcases refused with withStory | alone
    · exact Container.fault_of_decode withStory
    · exact .inl (.inl ⟨cause, alone⟩)
  · intro loaded found short sound
    obtain ⟨cause, cut⟩ := Header.exists_error_iff.mpr short
    refine ⟨cause, cut, gather_eq_error_iff.mpr (.inl (prepare_eq_error_iff.mpr
      (.inr ⟨loaded, found, .inr ?_⟩)))⟩
    have supplied : ∃ containers,
        (loadSupplied files dirs loaded.story request.resource?).outcome = .ok containers := by
      cases asked : request.resource? with
      | none => exact ⟨[], rfl⟩
      | some name =>
        obtain ⟨alone, ⟨path, data, located, content, decoded⟩, unchecked⟩ := sound name asked
        obtain ⟨_, _, _, _, _, rfl, _⟩ := Container.decode_eq_ok_iff.mp decoded
        obtain ⟨container, withStory⟩ :=
          Container.exists_decode_of_unchecked decoded unchecked
        exact ⟨[container], loadSupplied_eq_ok_iff.mpr
          ⟨some container, .some ⟨path, _, located, content, withStory⟩, rfl⟩⟩
    obtain ⟨containers, loadedSupplied⟩ := supplied
    exact ⟨containers, loadedSupplied, .inl ⟨cause, Except.map_eq_error_iff.mpr cut, rfl⟩⟩

/-- A story of four bytes, beside a container that states an identity and one that states none. -/
def cutFiles : FileSystem :=
  Snapshot.fileSystem
    ⟨[("/s/tiny", ⟨true, .ok [5, 0, 0, 1]⟩), ("/s/pictures", ⟨true, .ok samplePictures⟩),
      ("/s/sounds", ⟨true, .ok (Layout.file [] [])⟩)], []⟩

theorem found_tiny : Story.Found cutFiles sampleDirs "tiny"
    ⟨⟨"/s/tiny", .bare, [5, 0, 0, 1]⟩, none⟩ :=
  Story.load_eq_ok_iff.mp (by decide +kernel)

theorem badResource_blame_sample :
    Story.Found cutFiles sampleDirs "tiny" ⟨⟨"/s/tiny", .bare, [5, 0, 0, 1]⟩, none⟩ ∧
      ∃ cause, (gather cutFiles sampleDirs ⟨"tiny", some "sounds", none⟩).outcome =
        .error (.badProgram "/s/tiny" cause) := by
  have sound : Container.Found cutFiles sampleDirs none "sounds" ⟨Layout.file [] [], [], 0, none⟩ :=
    Container.load_eq_ok_iff.mp (by decide +kernel)
  have unstated : locate? (Layout.file [] []) Tag.storyIdentity = none := by decide +kernel
  obtain ⟨cause, _, failed⟩ :=
    (badResource_blame cutFiles sampleDirs ⟨"tiny", some "sounds", none⟩).2 _ found_tiny
      (by decide) (by rintro _ ⟨⟩; exact ⟨_, sound, .inr unstated⟩)
  exact ⟨found_tiny, cause, failed⟩

/-- The sound container is named as the bad resource, for the story's fault. -/
theorem accused_sample :
    (gather cutFiles sampleDirs ⟨"tiny", some "pictures", none⟩).outcome =
        .error (.badResource "/s/pictures" (.truncated .headerSerial 0x12 6 4)) ∧
      cutFiles.read "/s/pictures" = .ok samplePictures ∧
      ¬ Container.AtFault samplePictures [5, 0, 0, 1] (.truncated .headerSerial 0x12 6 4) := by
  refine ⟨by decide +kernel, by decide +kernel, ?_⟩
  rintro (⟨alone, refused⟩ | ⟨at_, stated, short⟩ | ⟨_, _, _, _, _, _, _, ⟨⟩⟩)
  · have sound : (Container.decode samplePictures none).outcome =
        .ok ⟨samplePictures, [], 0, none⟩ := by decide +kernel
    rw [sound] at refused
    cases refused
  · have place : locate? samplePictures Tag.storyIdentity = some 24 := by decide +kernel
    rw [place, Option.some.injEq] at stated
    subst stated
    revert short
    decide +kernel

end Bundle
end StoryBundle
