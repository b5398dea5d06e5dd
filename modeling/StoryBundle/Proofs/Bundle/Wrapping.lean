import StoryBundle.Proofs.Bundle.Blame
import StoryBundle.Proofs.Container.RoundTrip
import StoryBundle.Proofs.Story.Basic

/-!
# Stories in a container of their own

A `Wrapping` is a container around one story, whatever else stands in it. Such a container is
unwrapped to its story (`Wrapping.exists_unwrapped`), and from there on a bundle does not depend on
how the story came in, but for the container that it came in (`gather_wrapped`).
-/

namespace StoryBundle

/-- The packaging shows in the form header. -/
theorem Packaging.detect_append {header : Bytes} (rest : Bytes) (width : header.length = firstChunk) :
    Packaging.detect (header ++ rest) = Packaging.detect header := by
  have mark : (header ++ rest).take 4 = header.take 4 :=
    List.take_append_of_le_length (by rw [width]; decide)
  have type : ((header ++ rest).drop 8).take 4 = (header.drop 8).take 4 := by
    rw [List.drop_append_of_le_length (by rw [width]; decide),
      List.take_append_of_le_length (by rw [List.length_drop, width]; decide)]
  have first : (header ++ rest).head? = header.head? := by
    cases header with
    | nil => cases width
    | cons => rfl
  simp only [Packaging.detect, mark, type, first]

namespace Layout

/-- Where a piece stands that comes after an index with one row and the pieces `before`. -/
def placeAfter (before : List Piece) : Nat :=
  firstChunk + chunkHeaderSize + 4 + Entry.size + (before.flatMap Piece.bytes).length

/-- A story as the program that a container is run by. -/
def mainStory (story : Bytes) : Resource :=
  ⟨Tag.executable, Story.mainProgram, ⟨Tag.zcode, story⟩⟩

/-- A form header, an index that lists the story and nothing else, and further pieces on both sides
of the story. -/
def wrapped (header : Bytes) (before : List Piece) (story : Bytes) (after : List Piece) : Bytes :=
  header ++
    (indexPiece 1 (rows (placeAfter before) [mainStory story]) ::
      (before ++ (mainStory story).piece :: after)).flatMap Piece.bytes

/-- What stands around a story in a container of its own. -/
structure Wrapping (story : Bytes) where
  header : Bytes
  before : List Piece
  after : List Piece
  width : header.length = firstChunk
  marked : Packaging.detect header = .ok .wrapped
  small : (wrapped header before story after).length < UInt32.size
  stated : ∀ piece ∈ before ++ after, piece.tag = Tag.releaseNumber → 2 ≤ piece.payload.length

namespace Wrapping

variable {story : Bytes}

def bytes (wrapping : Wrapping story) : Bytes :=
  wrapped wrapping.header wrapping.before story wrapping.after

theorem detect_bytes (wrapping : Wrapping story) :
    Packaging.detect wrapping.bytes = .ok .wrapped :=
  (Packaging.detect_append _ wrapping.width).trans wrapping.marked

/-- The story stands where the row of the index says. -/
theorem exists_split (wrapping : Wrapping story) :
    ∃ front rest, wrapping.bytes = front ++ ((mainStory story).piece.bytes ++ rest) ∧
      front.length = placeAfter wrapping.before := by
  refine ⟨_, _, by rw [bytes, wrapped, ← List.cons_append, pieces_split], ?_⟩
  rw [List.length_append, wrapping.width, List.flatMap_cons, List.length_append,
    Piece.length_bytes]
  simp only [indexPiece, List.length_append, Bytes.length_toBigEndian, length_rows, placeAfter,
    Entry.size, List.length_singleton]
  omega

/-- A container around a story decodes, and its main program is the story. -/
theorem exists_unwrapped (wrapping : Wrapping story) :
    ∃ own, (Container.decode wrapping.bytes none).outcome = .ok own ∧ own.data = wrapping.bytes ∧
      (own.executable Story.mainProgram).outcome = .ok story := by
  have rowsWidth : (rows (placeAfter wrapping.before) [mainStory story]).length =
      1 * Entry.size := by
    rw [length_rows]
    rfl
  have stated : ∀ piece ∈ wrapping.before ++ (mainStory story).piece :: wrapping.after,
      piece.tag = Tag.releaseNumber → 2 ≤ piece.payload.length := by
    intro piece member tagged
    rcases List.mem_append.mp member with earlier | later
    · exact wrapping.stated piece (List.mem_append_left _ earlier) tagged
    · rcases List.mem_cons.mp later with rfl | later
      · cases tagged
      · exact wrapping.stated piece (List.mem_append_right _ later) tagged
  obtain ⟨release, decoded⟩ :=
    exists_decode_pieces rfl wrapping.width rowsWidth wrapping.small stated
  rw [readAll_rows] at decoded
  refine ⟨_, decoded, rfl, ?_⟩
  obtain ⟨front, rest, split, place⟩ := wrapping.exists_split
  have small := wrapping.small
  rw [← bytes, split, List.length_append, List.length_append] at small
  have width := (mainStory story).piece.length_bytes
  have indexed := @start?_entries_of_last (placeAfter wrapping.before) [] [] (mainStory story)
    (by simp) (by rw [← place]; simp; omega)
  have present : Chunk.read wrapping.bytes front.length = .ok ⟨front.length, Tag.zcode, story⟩ := by
    rw [split]
    exact read_piece (by omega)
  rw [Container.executable_eq_ok_iff]
  exact ⟨front.length, _, place ▸ indexed, present, rfl, rfl⟩

end Wrapping
end Layout

open Layout (Wrapping)

/-- The first program file with a name holds a container around a story. -/
theorem Story.found_wrapped {files : FileSystem} {dirs : SearchDirs} {name : String} {path : Path}
    {story : Bytes} (wrapping : Wrapping story)
    (located : Search.Located files dirs.programs name path)
    (content : files.read path = .ok wrapping.bytes) :
    ∃ own, (Container.decode wrapping.bytes none).outcome = .ok own ∧
      Story.Found files dirs name ⟨⟨path, .wrapped, story⟩, some own⟩ := by
  obtain ⟨own, decoded, _, executable⟩ := wrapping.exists_unwrapped
  exact ⟨own, decoded, path, wrapping.bytes, located, content, Story.ofBytes_eq_ok_iff.mpr
    (.inr ⟨wrapping.detect_bytes, own, story, decoded, executable, rfl⟩)⟩

/-- The same error with another program file to blame. -/
def BundleError.blaming (path : Path) : BundleError → BundleError
  | badProgram _ cause => badProgram path cause
  | other => other

namespace Bundle

/-- The same bundle for a story that came in a container of its own, which then stands in front. -/
def unwrappedFrom (path : Path) (own : Container) (bundle : Bundle) : Bundle :=
  { bundle with
    story := ⟨path, .wrapped, bundle.story.image⟩
    containers := firstOfEach Container.data (own :: bundle.containers) }

variable {files : FileSystem} {dirs : SearchDirs} {request : Request}

/-- Resources are never blamed on a program. -/
theorem blaming_of_load {path : Path} {name : String} {reference : Option Bytes}
    {problem : BundleError}
    (failed : (Container.load files dirs name reference).outcome = .error problem) :
    problem.blaming path = problem := by
  simp only [Container.load, Logged.outcome_bind, Logged.outcome_mapError, Logged.outcome_note,
    Logged.outcome_quiet, Except.ok_bind_eq, Except.bind_eq_error_iff, Except.mapError_eq_error_iff,
    FileSystem.load_eq_error_iff] at failed
  rcases failed with ⟨_, _, rfl⟩ | ⟨_, _, ⟨_, _, rfl⟩ | ⟨_, _, _, _, rfl⟩⟩ <;> rfl

/-- What is done once there is a story. -/
theorem gather_of_found {loaded : LoadedStory} (found : Story.Found files dirs request.program loaded) :
    (gather files dirs request).outcome = (do
      let supplied ← (loadSupplied files dirs loaded.story request.resource?).outcome
      let title ← (TitleId.read loaded.story.image).mapError (.badProgram loaded.story.path)
      let file ← (loadSettings files dirs request.settings?).outcome
      let configured ← (loadConfigured files dirs (file.settingsFor title)).outcome
      .ok ⟨loaded.story,
        firstOfEach Container.data (loaded.container?.toList ++ supplied ++ configured),
        file.settingsFor title, title⟩) := by
  simp only [gather, prepare, keepDistinct, Logged.outcome_bind, Logged.outcome_quiet,
    Logged.outcome_pure, SettingsFile.outcome_resolve, Story.title, Story.load_eq_ok_iff.mpr found,
    Except.ok_bind_eq, bind_assoc]

/-- A story that comes in a container of its own leads to the same bundle as the bare story, with
that container in front, or to the same error, which blames the container file where it blames the
bare one. -/
theorem gather_wrapped {story : Bytes} (wrapping : Wrapping story) {bareName name : String}
    {barePath path : Path} (resource? : Option String) (settings? : Option Path)
    (bare : Packaging.detect story = .ok .bare)
    (bareLocated : Search.Located files dirs.programs bareName barePath)
    (bareContent : files.read barePath = .ok story)
    (located : Search.Located files dirs.programs name path)
    (content : files.read path = .ok wrapping.bytes) :
    ∃ own, (Container.decode wrapping.bytes none).outcome = .ok own ∧
      (gather files dirs ⟨name, resource?, settings?⟩).outcome =
        ((gather files dirs ⟨bareName, resource?, settings?⟩).outcome.map
          (unwrappedFrom path own)).mapError (BundleError.blaming path) := by
  have bareFound : Story.Found files dirs bareName ⟨⟨barePath, .bare, story⟩, none⟩ :=
    ⟨barePath, story, bareLocated, bareContent, Story.ofBytes_eq_ok_iff.mpr (.inl ⟨bare, rfl⟩)⟩
  obtain ⟨own, decoded, found⟩ := Story.found_wrapped wrapping located content
  refine ⟨own, decoded, ?_⟩
  rw [@gather_of_found _ _ ⟨bareName, resource?, settings?⟩ _ bareFound,
    @gather_of_found _ _ ⟨name, resource?, settings?⟩ _ found]
  have sameSupplied : loadSupplied files dirs ⟨path, .wrapped, story⟩ resource? =
      loadSupplied files dirs ⟨barePath, .bare, story⟩ resource? := by
    cases resource? <;> rfl
  rw [sameSupplied]
  -- From here on the two runs go through the same stages, so they stop at the same one.
  cases loaded : (loadSupplied files dirs ⟨barePath, .bare, story⟩ resource?).outcome with
  | error problem =>
    obtain ⟨_, _, failed⟩ := loadSupplied_eq_error_iff.mp loaded
    exact congrArg Except.error (blaming_of_load failed).symm
  | ok supplied =>
    cases titled : TitleId.read story with
    | error cause => rfl
    | ok title =>
      cases settings : (loadSettings files dirs settings?).outcome with
      | error problem =>
        obtain ⟨_, _, _, rfl⟩ := loadSettings_eq_error settings
        rfl
      | ok file =>
        simp only [Except.mapError, Except.ok_bind_eq]
        cases loaded : (loadConfigured files dirs (file.settingsFor title)).outcome with
        | error problem =>
          obtain ⟨_, failed⟩ := loadConfigured_eq_error_iff.mp loaded
          exact congrArg Except.error (blaming_of_load failed).symm
        | ok configured =>
          have front : firstOfEach Container.data (own :: (supplied ++ configured)) =
              firstOfEach Container.data (own :: firstOfEach Container.data (supplied ++ configured)) :=
            (firstOfEach_cons_firstOfEach own (supplied ++ configured)).symm
          exact congrArg (fun containers => Except.ok (⟨⟨path, .wrapped, story⟩, containers,
            file.settingsFor title, title⟩ : Bundle)) front

/-- A container around the sample story, with a picture in front of it and a release number. -/
def sampleWrapping : Wrapping sampleImage where
  header := Packaging.formMark ++ [0, 0, 0, 94] ++ Packaging.resourceMark
  before := [⟨⟨0x50, 0x4E, 0x47, 0x20⟩, [1]⟩]
  after := [⟨Tag.releaseNumber, [0, 7]⟩]
  width := rfl
  marked := rfl
  small := by decide
  stated := by decide

/-- The bare story and the wrapped one side by side. -/
def bothFiles : FileSystem :=
  Snapshot.fileSystem
    ⟨[("/s/bare", ⟨true, .ok sampleImage⟩), ("/s/boxed", ⟨true, .ok sampleWrapping.bytes⟩),
      ("/s/pictures", ⟨true, .ok samplePictures⟩),
      ("/s/.quendor", ⟨true, .ok "blorb: boxed".toUTF8.toList⟩)], []⟩

def bareBundle : Bundle where
  story := ⟨"/s/bare", .bare, sampleImage⟩
  containers := [⟨samplePictures, [], 0, some sampleImage⟩,
    ⟨sampleWrapping.bytes, [⟨Tag.executable, 0, 46⟩], 7, none⟩]
  settings := { Settings.none with blorb := "boxed" }
  title := ⟨"88.840726"⟩

theorem gather_wrapped_sample :
    (gather bothFiles sampleDirs ⟨"bare", some "pictures", none⟩).outcome = .ok bareBundle ∧
      ∃ own, (Container.decode sampleWrapping.bytes none).outcome = .ok own ∧
        (gather bothFiles sampleDirs ⟨"boxed", some "pictures", none⟩).outcome =
          .ok (unwrappedFrom "/s/boxed" own bareBundle) := by
  have gathered : (gather bothFiles sampleDirs ⟨"bare", some "pictures", none⟩).outcome =
      .ok bareBundle := by decide +kernel
  obtain ⟨own, decoded, same⟩ := gather_wrapped sampleWrapping (some "pictures") none rfl
    (Search.find_eq_ok_iff.mp (by decide +kernel) :
      Search.Located bothFiles sampleDirs.programs "bare" "/s/bare") (by decide +kernel)
    (Search.find_eq_ok_iff.mp (by decide +kernel) :
      Search.Located bothFiles sampleDirs.programs "boxed" "/s/boxed") (by decide +kernel)
  rw [gathered] at same
  exact ⟨gathered, own, decoded, same⟩

end Bundle
end StoryBundle
