import StoryBundle.Proofs.Bytes
import StoryBundle.Proofs.Container.Decoding

/-!
# The program in a container

An index may send a reader anywhere: into the header of the form, into another chunk or past the end.
Wherever that is, a program can be had if the bytes there are a whole story chunk (`Holds`), and
`Lacks` lists what is reported otherwise, stage by stage.
-/

namespace StoryBundle

namespace Chunk

variable {data : Bytes} {place : Nat}

theorem exists_header (enough : place + chunkHeaderSize ≤ data.length) :
    ∃ tag word, data.slice? place 4 = some (Tag.toBytes tag) ∧
      data.slice? (place + 4) 4 = some word := by
  rw [chunkHeaderSize] at enough
  have tagged : data.slice? place 4 = some ((data.drop place).take 4) :=
    Bytes.slice?_eq_some_iff.mpr ⟨by omega, rfl⟩
  have counted : data.slice? (place + 4) 4 = some ((data.drop (place + 4)).take 4) :=
    Bytes.slice?_eq_some_iff.mpr ⟨by omega, rfl⟩
  obtain ⟨tag, spelled⟩ := Tag.exists_toBytes_eq (Bytes.length_of_slice? tagged)
  exact ⟨tag, _, spelled ▸ tagged, counted⟩

/-- A chunk of which not even the header is there. -/
theorem read_of_short (short : data.length < place + chunkHeaderSize) :
    read data place = .error (.truncated .chunkHeader place chunkHeaderSize data.length) :=
  Except.bind_eq_error_iff.mpr (.inl (Region.read_eq_error_iff.mpr ⟨short, rfl⟩))

/-- Behind a header that is there all hangs on the payload. -/
theorem read_of_header {tag : Tag} {word : Bytes} (tagged : data.slice? place 4 = some tag.toBytes)
    (counted : data.slice? (place + 4) 4 = some word) :
    read data place =
      (Region.chunkPayload.read data (place + chunkHeaderSize) (Bytes.bigEndian word)).map
        fun payload => ⟨place, tag, payload⟩ := by
  have whole : data.slice? place (4 + 4) = some (tag.toBytes ++ word) :=
    (Bytes.slice?_append_iff tag.length_toBytes (Bytes.length_of_slice? counted)).mpr
      ⟨tagged, counted⟩
  have header : Region.chunkHeader.read data place chunkHeaderSize = .ok (tag.toBytes ++ word) :=
    Region.read_eq_ok_iff.mpr whole
  rw [read, header, Except.ok_bind_eq]
  change (Region.chunkPayload.read data (place + chunkHeaderSize) (Bytes.bigEndian word) >>= _) = _
  cases Region.chunkPayload.read data (place + chunkHeaderSize) (Bytes.bigEndian word) <;> rfl

end Chunk

namespace Container

variable {container : Container} {number : UInt32}

/-- Where the index says that the program starts there is a story chunk with this payload. -/
def Holds (container : Container) (number : UInt32) (image : Bytes) : Prop :=
  ∃ start word, container.start? Tag.executable number = some start ∧
    container.data.slice? start 4 = some Tag.zcode.toBytes ∧
    container.data.slice? (start + 4) 4 = some word ∧
    container.data.slice? (start + 8) (Bytes.bigEndian word) = some image

/-- Why a program cannot be had. Each rule but the first says that the stages before it passed. -/
inductive Lacks (container : Container) (number : UInt32) : DecodeError → Prop
  | unlisted : container.start? Tag.executable number = none →
      Lacks container number (.missingExecutable number)
  | headerCut {start : Nat} : container.start? Tag.executable number = some start →
      container.data.length < start + 8 →
      Lacks container number (.truncated .chunkHeader start 8 container.data.length)
  | payloadCut {start : Nat} {word : Bytes} :
      container.start? Tag.executable number = some start →
      container.data.slice? (start + 4) 4 = some word →
      container.data.length < start + 8 + Bytes.bigEndian word →
      Lacks container number
        (.truncated .chunkPayload (start + 8) (Bytes.bigEndian word) container.data.length)
  | foreign {start : Nat} {tag : Tag} {word : Bytes} :
      container.start? Tag.executable number = some start →
      container.data.slice? start 4 = some tag.toBytes →
      container.data.slice? (start + 4) 4 = some word →
      start + 8 + Bytes.bigEndian word ≤ container.data.length → tag ≠ Tag.zcode →
      Lacks container number (.foreignExecutable tag)

theorem executable_of_read_error {start : Nat} {cause : DecodeError}
    (indexed : container.start? Tag.executable number = some start)
    (failed : Chunk.read container.data start = .error cause) :
    (container.executable number).outcome = .error cause := by
  rw [executable, indexed]
  simp only [Logged.outcome_bind, Logged.outcome_quiet, failed, Except.error_bind_eq]

theorem executable_of_holds {image : Bytes} (holds : container.Holds number image) :
    (container.executable number).outcome = .ok image := by
  obtain ⟨start, word, indexed, tagged, counted, present⟩ := holds
  have payload : Region.chunkPayload.read container.data (start + 8) (Bytes.bigEndian word) =
      .ok image := Region.read_eq_ok_iff.mpr present
  have read : Chunk.read container.data start = .ok ⟨start, Tag.zcode, image⟩ :=
    (Chunk.read_of_header tagged counted).trans (congrArg (Except.map _) payload)
  rw [executable_of_read indexed read, if_pos rfl]

theorem executable_of_lacks {cause : DecodeError} (lacks : container.Lacks number cause) :
    (container.executable number).outcome = .error cause := by
  cases lacks with
  | unlisted absent => exact executable_of_absent absent
  | headerCut indexed short => exact executable_of_read_error indexed (Chunk.read_of_short short)
  | @payloadCut start word indexed counted short =>
    -- The length is there, so the tag in front of it is there as well.
    obtain ⟨tag, _, tagged, _⟩ := Chunk.exists_header (Bytes.slice?_eq_some_iff.mp counted).1
    have payload : Region.chunkPayload.read container.data (start + 8) (Bytes.bigEndian word) =
        .error (.truncated .chunkPayload (start + 8) (Bytes.bigEndian word) container.data.length) :=
      Region.read_eq_error_iff.mpr ⟨short, rfl⟩
    exact executable_of_read_error indexed
      ((Chunk.read_of_header tagged counted).trans (congrArg (Except.map _) payload))
  | @foreign start tag word indexed tagged counted enough other =>
    obtain ⟨rest, present⟩ : ∃ rest,
        container.data.slice? (start + 8) (Bytes.bigEndian word) = some rest :=
      ⟨_, Bytes.slice?_eq_some_iff.mpr ⟨enough, rfl⟩⟩
    have payload : Region.chunkPayload.read container.data (start + 8) (Bytes.bigEndian word) =
        .ok rest := Region.read_eq_ok_iff.mpr present
    have read := (Chunk.read_of_header tagged counted).trans (congrArg (Except.map _) payload)
    exact (executable_of_read indexed read).trans (if_neg other)

/-- A program can be had or there is a reason why not. -/
theorem holds_or_lacks (container : Container) (number : UInt32) :
    (∃ image, container.Holds number image) ∨ ∃ cause, container.Lacks number cause := by
  cases indexed : container.start? Tag.executable number with
  | none => exact .inr ⟨_, .unlisted indexed⟩
  | some start =>
    by_cases headed : start + chunkHeaderSize ≤ container.data.length
    · obtain ⟨tag, word, tagged, counted⟩ := Chunk.exists_header headed
      by_cases enough : start + 8 + Bytes.bigEndian word ≤ container.data.length
      · by_cases story : tag = Tag.zcode
        · subst story
          exact .inl ⟨_, start, word, indexed, tagged, counted,
            Bytes.slice?_eq_some_iff.mpr ⟨enough, rfl⟩⟩
        · exact .inr ⟨_, .foreign indexed tagged counted enough story⟩
      · exact .inr ⟨_, .payloadCut indexed counted (Nat.lt_of_not_le enough)⟩
    · exact .inr ⟨_, .headerCut indexed (Nat.lt_of_not_le headed)⟩

theorem executable_eq_ok_iff_holds {image : Bytes} :
    (container.executable number).outcome = .ok image ↔ container.Holds number image := by
  refine ⟨fun ended => ?_, executable_of_holds⟩
  rcases holds_or_lacks container number with ⟨other, holds⟩ | ⟨cause, lacks⟩
  · cases (executable_of_holds holds).symm.trans ended
    exact holds
  · cases (executable_of_lacks lacks).symm.trans ended

theorem executable_eq_error_iff {cause : DecodeError} :
    (container.executable number).outcome = .error cause ↔ container.Lacks number cause := by
  refine ⟨fun ended => ?_, executable_of_lacks⟩
  rcases holds_or_lacks container number with ⟨image, holds⟩ | ⟨other, lacks⟩
  · cases (executable_of_holds holds).symm.trans ended
  · cases (executable_of_lacks lacks).symm.trans ended
    exact lacks

end Container
end StoryBundle
