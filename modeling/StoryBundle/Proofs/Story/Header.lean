import StoryBundle.Proofs.Except
import StoryBundle.Story.Header

/-!
# Headers that can be read

A header is read exactly from a story that is as long as a header (`read_eq_ok_iff`), and its
fields are the bytes at their places.
-/

namespace StoryBundle

namespace Header

/-- Where the last field of a header ends. -/
def size : Nat := 0x1E

/-- The fields at the front of a story that is long enough. -/
def ofFront (story : Bytes) : Header where
  version := Bytes.word8 (story.take 1)
  release := Bytes.word16 ((story.drop 0x02).take 2)
  serial := (story.drop 0x12).take 6
  checksum := Bytes.word16 ((story.drop 0x1C).take 2)

theorem read_eq_ok_iff {story : Bytes} {header : Header} :
    read story = .ok header ↔ size ≤ story.length ∧ ofFront story = header := by
  simp only [read, Except.bind_eq_ok_iff, Region.read_eq_ok_iff, Bytes.slice?_eq_some_iff, pure,
    Except.pure, Except.ok.injEq]
  constructor
  · rintro ⟨_, ⟨_, rfl⟩, _, ⟨_, rfl⟩, _, ⟨_, rfl⟩, _, ⟨enough, rfl⟩, rfl⟩
    exact ⟨enough, rfl⟩
  · rintro ⟨enough, rfl⟩
    rw [size] at enough
    exact ⟨_, ⟨by omega, rfl⟩, _, ⟨by omega, rfl⟩, _, ⟨by omega, rfl⟩, _, ⟨enough, rfl⟩, rfl⟩

/-- A header fails to be read exactly if the story ends within it. -/
theorem exists_error_iff {story : Bytes} :
    (∃ cause, read story = .error cause) ↔ story.length < size := by
  constructor
  · rintro ⟨cause, failed⟩
    apply Nat.lt_of_not_le
    intro enough
    rw [read_eq_ok_iff.mpr ⟨enough, rfl⟩] at failed
    cases failed
  · intro short
    cases started : read story with
    | error cause => exact ⟨cause, rfl⟩
    | ok header =>
      obtain ⟨enough, _⟩ := read_eq_ok_iff.mp started
      exact absurd enough (Nat.not_le_of_lt short)

/-- The report that a story ends within its header: it names the first field that is cut off. -/
def shortfall (story : Bytes) : DecodeError :=
  if story.length < 1 then .truncated .headerVersion 0x00 1 story.length
  else if story.length < 4 then .truncated .headerRelease 0x02 2 story.length
  else if story.length < 0x18 then .truncated .headerSerial 0x12 6 story.length
  else .truncated .headerChecksum 0x1C 2 story.length

theorem read_of_short {story : Bytes} (short : story.length < size) :
    read story = .error (shortfall story) := by
  rw [size] at short
  unfold shortfall
  simp only [read, Except.bind_eq_error_iff, Region.read_eq_error_iff, Region.read_eq_ok_iff,
    Bytes.slice?_eq_some_iff]
  split
  · exact .inl ⟨by omega, rfl⟩
  · refine .inr ⟨_, ⟨by omega, rfl⟩, ?_⟩
    split
    · exact .inl ⟨by omega, rfl⟩
    · refine .inr ⟨_, ⟨by omega, rfl⟩, ?_⟩
      split
      · exact .inl ⟨by omega, rfl⟩
      · exact .inr ⟨_, ⟨by omega, rfl⟩, .inl ⟨by omega, rfl⟩⟩

end Header

theorem TitleId.read_eq_ok_iff {story : Bytes} {title : TitleId} :
    TitleId.read story = .ok title ↔
      Header.size ≤ story.length ∧ (Header.ofFront story).title = title := by
  rw [TitleId.read, Except.map_eq_ok_iff]
  constructor
  · rintro ⟨header, started, rfl⟩
    obtain ⟨enough, rfl⟩ := Header.read_eq_ok_iff.mp started
    exact ⟨enough, rfl⟩
  · rintro ⟨enough, rfl⟩
    exact ⟨_, Header.read_eq_ok_iff.mpr ⟨enough, rfl⟩, rfl⟩

end StoryBundle
