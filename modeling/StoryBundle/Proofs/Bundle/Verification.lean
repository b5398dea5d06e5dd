import StoryBundle.CommandLine.Launch
import StoryBundle.Proofs.Bundle.Gathering
import StoryBundle.Proofs.Container.Decoding
import StoryBundle.Proofs.Container.Identity
import StoryBundle.Proofs.Story.Basic

/-!
# The resource file that is asked for

The container of a resource file is checked against the image of the story, and no bundle is there
if the two state different identities (`supplied_identity_agrees`). It is kept as checked, unless
the story came out of a container with the same bytes (`supplied_kept`).
-/

namespace StoryBundle

variable {files : FileSystem} {dirs : SearchDirs}

/-- A story was taken out of a container with these bytes. -/
def Story.CameIn (files : FileSystem) (story : Story) (data : Bytes) : Prop :=
  story.packaging = .wrapped ∧ files.read story.path = .ok data

/-- A story has a container of its own exactly if it was wrapped, and that one has no reference. -/
theorem Story.Found.own {name : String} {loaded : LoadedStory}
    (found : Story.Found files dirs name loaded) :
    loaded.story.packaging = .bare ∧ loaded.container? = none ∨
    loaded.story.packaging = .wrapped ∧ ∃ own, loaded.container? = some own ∧
      own.reference = none ∧ files.read loaded.story.path = .ok own.data := by
  obtain ⟨path, data, _, content, decoded⟩ := found
  rcases Story.ofBytes_eq_ok_iff.mp decoded with
    ⟨_, rfl⟩ | ⟨_, own, image, unwrapped, _, rfl⟩
  · exact .inl ⟨rfl, rfl⟩
  · obtain ⟨_, _, _, _, _, sameData, noReference⟩ := Container.decode_eq_ok_iff.mp unwrapped
    rw [← sameData] at content
    exact .inr ⟨rfl, own, rfl, noReference, content⟩

namespace Bundle

variable {request : Request} {name : String} {path : Path} {data : Bytes}

namespace Parts

variable {parts : Parts}

/-- An image without a header has no title, so the empty one that would go unchecked is out. -/
theorem Fit.keptReference_image (fit : parts.Fit files dirs request) :
    Container.keptReference (some parts.image) = some parts.image := by
  have present : parts.image ≠ [] := by
    intro empty
    have header := fit.header
    rw [empty] at header
    cases header
  rw [Container.keptReference, Option.filter_eq_some_iff]
  exact ⟨rfl, by simpa using present⟩

/-- The resource file that is asked for is the one that is decoded. -/
theorem Fit.exists_supplied (fit : parts.Fit files dirs request)
    (asked : request.resource? = some name) (located : Search.Located files dirs.programs name path)
    (content : files.read path = .ok data) :
    ∃ supplied, parts.supplied? = some supplied ∧
      (Container.decode data (some parts.image)).outcome = .ok supplied := by
  have wanted := fit.supplied
  rw [asked] at wanted
  obtain ⟨supplied, given, found⟩ := exists_of_rel_some wanted
  obtain ⟨other, otherData, also, otherContent, decoded⟩ := found
  obtain rfl := located.unique also
  rw [content, Except.ok.injEq] at otherContent
  subst otherContent
  exact ⟨supplied, given, decoded⟩

/-- The container that is kept of those with the bytes of the resource file. -/
theorem Fit.exists_kept (fit : parts.Fit files dirs request) {supplied : Container}
    (given : parts.supplied? = some supplied) (checked : supplied.reference = some parts.image) :
    ∃ container ∈ firstOfEach Container.data parts.containers, container.data = supplied.data ∧
      (¬ parts.loaded.story.CameIn files supplied.data →
        container.reference = some parts.image) ∧
      (parts.loaded.story.CameIn files supplied.data → container.reference = none ∧
        (firstOfEach Container.data parts.containers).head? = some container) := by
  rcases fit.program.own with ⟨bare, noOwn⟩ | ⟨wrapped, own, hasOwn, unchecked, ownContent⟩
  · have order : parts.containers = [] ++ supplied :: parts.configured?.toList := by
      rw [containers, noOwn, given]
      rfl
    rw [order]
    refine ⟨supplied, mem_firstOfEach_of_unseen List.not_mem_nil, rfl, fun _ => checked, ?_⟩
    rintro ⟨wrapped, _⟩
    rw [bare] at wrapped
    cases wrapped
  · have order : parts.containers = [own] ++ supplied :: parts.configured?.toList := by
      rw [containers, hasOwn, given]
      rfl
    by_cases same : own.data = supplied.data
    · -- The story's own container stands first, so it is the one of the two that stays.
      have cameIn : parts.loaded.story.CameIn files supplied.data := ⟨wrapped, same ▸ ownContent⟩
      rw [order, List.singleton_append, firstOfEach_cons]
      exact ⟨own, List.mem_cons_self, same, fun elsewhere => absurd cameIn elsewhere,
        fun _ => ⟨unchecked, rfl⟩⟩
    · have unseen : supplied.data ∉ [own].map Container.data := by
        rw [List.map_singleton, List.mem_singleton]
        exact Ne.symm same
      rw [order]
      refine ⟨supplied, mem_firstOfEach_of_unseen unseen, rfl, fun _ => checked, ?_⟩
      rintro ⟨_, suppliedContent⟩
      rw [ownContent, Except.ok.injEq] at suppliedContent
      exact absurd suppliedContent same

end Parts

/-- A resource file that states an identity states the one in the header of the image. -/
theorem supplied_identity_agrees {bundle : Bundle} {at_ : Nat}
    (gathered : (gather files dirs request).outcome = .ok bundle)
    (asked : request.resource? = some name) (located : Search.Located files dirs.programs name path)
    (content : files.read path = .ok data) (stated : locate? data Tag.storyIdentity = some at_) :
    Header.size ≤ bundle.story.image.length ∧ ∃ release serial checksum,
      data.slice? (at_ + 8) 2 = some release ∧
      bundle.story.image.slice? 0x02 2 = some release ∧
      data.slice? (at_ + 10) 6 = some serial ∧
      bundle.story.image.slice? 0x12 6 = some serial ∧
      data.slice? (at_ + 16) 2 = some checksum ∧
      bundle.story.image.slice? 0x1C 2 = some checksum := by
  obtain ⟨parts, fit, rfl⟩ := gather_eq_ok_iff.mp gathered
  obtain ⟨supplied, _, decoded⟩ := fit.exists_supplied asked located content
  obtain ⟨_, _, _, checked, _⟩ := Container.decode_eq_ok_iff.mp decoded
  rw [fit.keptReference_image] at checked
  exact Identity.fields_of_compare (Identity.check_eq_ok_iff.mp checked at_ stated)

theorem located_samplePictures :
    Search.Located sampleFiles sampleDirs.programs "pictures" "/s/pictures" :=
  Search.first?_eq_some_iff.mp (by decide +kernel)

theorem read_samplePictures : sampleFiles.read "/s/pictures" = .ok samplePictures := by
  decide +kernel

theorem supplied_identity_agrees_sample :
    (gather sampleFiles sampleDirs sampleRequest).outcome = .ok sampleBundle ∧
      ∃ at_, locate? samplePictures Tag.storyIdentity = some at_ ∧
        samplePictures.slice? (at_ + 8) 2 = sampleImage.slice? 0x02 2 := by
  have stated : locate? samplePictures Tag.storyIdentity = some 24 := by decide +kernel
  obtain ⟨_, _, _, _, theirs, ours, _⟩ := supplied_identity_agrees gather_sampleRequest rfl
    located_samplePictures read_samplePictures stated
  exact ⟨gather_sampleRequest, 24, stated, theirs.trans ours.symm⟩

/-- One container is kept of those with the bytes of the resource file. It counts as checked unless
the story itself came in these bytes, since its own container comes first and is kept then. -/
theorem supplied_kept {bundle : Bundle}
    (gathered : (gather files dirs request).outcome = .ok bundle)
    (asked : request.resource? = some name) (located : Search.Located files dirs.programs name path)
    (content : files.read path = .ok data) :
    ∃ container, bundle.containers.filter (·.data = data) = [container] ∧
      (¬ bundle.story.CameIn files data → container.reference = some bundle.story.image ∧
        (CommandLine.ContainerSummary.of container).verified = true) ∧
      (bundle.story.CameIn files data → bundle.containers.head? = some container ∧
        container.reference = none ∧
        (CommandLine.ContainerSummary.of container).verified = false) := by
  obtain ⟨parts, fit, rfl⟩ := gather_eq_ok_iff.mp gathered
  obtain ⟨supplied, given, decoded⟩ := fit.exists_supplied asked located content
  obtain ⟨_, _, _, _, _, rfl, checked⟩ := Container.decode_eq_ok_iff.mp decoded
  rw [fit.keptReference_image] at checked
  obtain ⟨container, kept, sameData, elsewhere, cameIn⟩ := fit.exists_kept given checked
  refine ⟨container, ?_, ?_, ?_⟩
  · rw [← sameData]
    exact filter_firstOfEach_of_mem kept
  · intro apart
    have reference := elsewhere apart
    exact ⟨reference, by rw [CommandLine.ContainerSummary.of, reference]; rfl⟩
  · intro came
    obtain ⟨reference, first⟩ := cameIn came
    exact ⟨first, reference, by rw [CommandLine.ContainerSummary.of, reference]; rfl⟩

theorem supplied_kept_sample :
    (gather sampleFiles sampleDirs sampleRequest).outcome = .ok sampleBundle ∧
      ¬ sampleBundle.story.CameIn sampleFiles samplePictures ∧
      ∃ container, sampleBundle.containers.filter (·.data = samplePictures) = [container] ∧
        container.reference = some sampleImage := by
  have apart : ¬ sampleBundle.story.CameIn sampleFiles samplePictures := by
    rintro ⟨_, own⟩
    have other : sampleFiles.read sampleBundle.story.path ≠ .ok samplePictures := by decide +kernel
    exact other own
  obtain ⟨container, kept, checked, _⟩ :=
    supplied_kept gather_sampleRequest rfl located_samplePictures read_samplePictures
  exact ⟨gather_sampleRequest, apart, container, kept, (checked apart).1⟩

/-- The bundle for a program that is its own resource file. -/
def sampleDoubled : Bundle :=
  { sampleBundle with containers := sampleBundle.containers.map fun container =>
      { container with reference := none } }

/-- The resource file is decoded against the image, and yet no container of it counts as checked. -/
theorem supplied_not_verified_sample :
    (gather sampleFiles sampleDirs ⟨"zork", some "zork", none⟩).outcome = .ok sampleDoubled ∧
      Search.Located sampleFiles sampleDirs.programs "zork" "/s/zork" ∧
      sampleFiles.read "/s/zork" = .ok sampleProgram ∧
      ¬ ∃ container ∈ sampleDoubled.containers, container.data = sampleProgram ∧
        container.reference = some sampleDoubled.story.image := by
  have gathered : (gather sampleFiles sampleDirs ⟨"zork", some "zork", none⟩).outcome =
      .ok sampleDoubled := by decide +kernel
  have located : Search.Located sampleFiles sampleDirs.programs "zork" "/s/zork" :=
    Search.first?_eq_some_iff.mp (by decide +kernel)
  have content : sampleFiles.read "/s/zork" = .ok sampleProgram := by decide +kernel
  refine ⟨gathered, located, content, ?_⟩
  rintro ⟨container, kept, _, checked⟩
  have unchecked : ∀ container ∈ sampleDoubled.containers, container.reference = none := by
    decide +kernel
  rw [unchecked container kept] at checked
  cases checked

end Bundle
end StoryBundle
