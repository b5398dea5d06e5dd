import StoryBundle.Proofs.Container.Executable
import StoryBundle.Proofs.Container.Identity
import StoryBundle.Proofs.Story.Packaging
import StoryBundle.Proofs.Trapping.Container

/-!
# Decoding is safe

Decoding traps nowhere, and a report of truncation is true of the bytes that were read: those of the
story for the fields of its header and those of the container for all else (`sound_of_length_lt`).
-/

namespace StoryBundle

/-- The bytes that a region is read from: those of a story for a header field and those of a
container for any other. -/
def Region.source? (container? story? : Option Bytes) : Region → Option Bytes
  | headerVersion | headerRelease | headerSerial | headerChecksum => story?
  | _ => container?

/-- A report of truncation names a region that reaches past the end of the bytes it is read from,
and tells how many these are. -/
def DecodeError.Truthful (container? story? : Option Bytes) : DecodeError → Prop
  | truncated region offset needed available =>
    ∃ source, region.source? container? story? = some source ∧ source.length = available ∧
      available < offset + needed
  | _ => True

/-- What is read of a region fails with a true report. -/
theorem Region.truthful_of_read {container? story? : Option Bytes} {region : Region} {data : Bytes}
    {offset needed : Nat} {cause : DecodeError}
    (source : region.source? container? story? = some data)
    (failed : region.read data offset needed = .error cause) : cause.Truthful container? story? := by
  obtain ⟨short, rfl⟩ := Region.read_eq_error_iff.mp failed
  exact ⟨data, source, rfl, short⟩

theorem Header.truthful_of_read {container? : Option Bytes} {story : Bytes} {cause : DecodeError}
    (failed : Header.read story = .error cause) : cause.Truthful container? (some story) := by
  simp only [Header.read, Except.bind_eq_error_iff] at failed
  rcases failed with failed | ⟨_, _, failed | ⟨_, _, failed | ⟨_, _, failed | ⟨_, _, ⟨⟩⟩⟩⟩⟩
  all_goals exact Region.truthful_of_read rfl failed

theorem Chunk.truthful_of_read {data : Bytes} {offset : Nat} {cause : DecodeError}
    (failed : Chunk.read data offset = .error cause) : cause.Truthful (some data) none := by
  simp only [Chunk.read, Except.bind_eq_error_iff] at failed
  rcases failed with failed | ⟨_, _, failed | ⟨_, _, ⟨⟩⟩⟩
  all_goals exact Region.truthful_of_read rfl failed

/-- Packaging is never reported as truncated. -/
theorem Packaging.truthful_of_detect {data : Bytes} {cause : DecodeError}
    (failed : Packaging.detect data = .error cause) : cause.Truthful none none := by
  cases Packaging.detect_eq_error_iff.mp failed with
  | glulx => trivial
  | foreign => trivial
  | unknown => trivial

theorem Index.truthful_of_read {story? : Option Bytes} {data : Bytes} {at_ : Nat}
    {cause : DecodeError} (failed : (Index.read data at_).outcome = .error cause) :
    cause.Truthful (some data) story? := by
  rcases Index.read_eq_error_iff.mp failed with ⟨short, rfl⟩ | ⟨_, _, short, rfl⟩
  all_goals exact ⟨data, rfl, rfl, short⟩

theorem Identity.truthful_of_check {data story : Bytes} {cause : DecodeError}
    (failed : (Identity.check data story).outcome = .error cause) :
    cause.Truthful (some data) (some story) := by
  obtain ⟨at_, _, differs⟩ := Identity.check_eq_error_iff.mp failed
  rcases Identity.compare_eq_error_iff.mp differs with
    ⟨short, rfl⟩ | ⟨_, _, cut | ⟨_, _, _, rfl⟩⟩
  · exact ⟨data, rfl, rfl, short⟩
  · exact Header.truthful_of_read cut
  · trivial

namespace Container

variable {data : Bytes} {cause : DecodeError}

theorem truthful_of_decode {reference : Option Bytes}
    (failed : (decode data reference).outcome = .error cause) :
    cause.Truthful (some data) reference := by
  rcases decode_eq_error_iff.mp failed with ⟨_, rfl⟩ | ⟨at_, _, failed | ⟨_, failed | ⟨_, failed⟩⟩⟩
  · trivial
  · exact Index.truthful_of_read failed
  · cases kept : keptReference reference with
    | none =>
      rw [kept] at failed
      cases failed
    | some story =>
      obtain ⟨rfl, _⟩ := keptReference_eq_some_iff.mp kept
      rw [kept] at failed
      exact Identity.truthful_of_check failed
  · obtain ⟨_, _, short, rfl⟩ := readRelease_eq_error_iff.mp failed
    exact ⟨data, rfl, rfl, short⟩

theorem truthful_of_executable {container : Container} {number : UInt32}
    (failed : (container.executable number).outcome = .error cause) :
    cause.Truthful (some container.data) none := by
  cases executable_eq_error_iff.mp failed with
  | unlisted => trivial
  | headerCut _ short => exact ⟨container.data, rfl, rfl, short⟩
  | payloadCut _ _ short => exact ⟨container.data, rfl, rfl, short⟩
  | foreign => trivial

end Container

namespace Trapping

variable {α : Type}

/-- A computation that traps nowhere: it ends as the plain one does, and a report of truncation that
it ends in is true of the bytes that were read. -/
structure Sound (run : Trapping α) (outcome : Except DecodeError α)
    (container? story? : Option Bytes) : Prop where
  same : run = settled outcome
  truthful : ∀ cause, outcome = .error cause → cause.Truthful container? story?

theorem Sound.ne_trap {run : Trapping α} {outcome : Except DecodeError α}
    {container? story? : Option Bytes} (sound : Sound run outcome container? story?) (cause : Trap) :
    run ≠ trap cause :=
  sound.same ▸ settled_ne_trap outcome cause

/-- Whatever the bytes are, decoding them relies on nothing that is not so: no slice lies outside of
its buffer, no sum that goes unchecked is past the last address, and no branch is taken that is not
meant to be. What it gives is what decoding without a look at addresses gives, and each report of
truncation is true. -/
theorem sound_of_length_lt {data : Bytes} (small : data.length < 2 ^ 63) :
    Sound (header data) (Header.read data) none (some data) ∧
    Sound (packaging data) (Packaging.detect data) none none ∧
    (∀ tag, Sound (locate data tag) (.ok (locate? data tag)) none none) ∧
    (∀ reference,
      Sound (decode data reference) (Container.decode data reference).outcome (some data)
        reference) ∧
    ∀ container : Container, container.data = data →
      (∀ offset : UInt64,
        Sound (chunk data offset.toNat) (Chunk.read data offset.toNat) (some data) none) ∧
      (∀ usage number,
        Option.Rel (Sound · · (some data) none) (resource? container usage number)
          (container.resource? usage number)) ∧
      ∀ number,
        Sound (executable container number) (container.executable number).outcome (some data)
          none := by
  refine ⟨⟨header_eq data, fun _ => Header.truthful_of_read⟩,
    ⟨packaging_eq data, fun _ => Packaging.truthful_of_detect⟩,
    fun tag => ⟨locate_eq small tag, fun _ => nofun⟩,
    fun reference => ⟨decode_eq small reference, fun _ => Container.truthful_of_decode⟩, ?_⟩
  rintro container rfl
  have chunkSound (offset : Nat) : Sound (chunk container.data offset)
      (Chunk.read container.data offset) (some container.data) none :=
    ⟨chunk_eq small offset, fun _ => Chunk.truthful_of_read⟩
  refine ⟨fun offset => chunkSound offset.toNat, fun usage number => ?_,
    fun number => ⟨executable_eq small number, fun _ => Container.truthful_of_executable⟩⟩
  rw [resource?, Container.resource?]
  cases container.start? usage number with
  | none => exact .none
  | some start => exact .some (chunkSound start)

/-- A container that ends before the one row of its index. -/
def cutIndex : Bytes :=
  Packaging.formMark ++ [0, 0, 0, 16] ++ Packaging.resourceMark ++ Tag.resourceIndex.toBytes ++
    [0, 0, 0, 16, 0, 0, 0, 1]

/-- The cut is reported with the bytes that there are, and a chunk at the last address traps
nowhere. -/
theorem sound_of_length_lt_sample :
    cutIndex.length < 2 ^ 63 ∧
      decode cutIndex none = refuse (.truncated .resourceEntries 24 12 24) ∧
      (DecodeError.truncated .resourceEntries 24 12 24).Truthful (some cutIndex) none ∧
      ∀ cause, chunk cutIndex (0xFFFFFFFFFFFFFFFF : UInt64).toNat ≠ trap cause := by
  have small : cutIndex.length < 2 ^ 63 := by decide
  have refused : (Container.decode cutIndex none).outcome =
      .error (.truncated .resourceEntries 24 12 24) := by decide +kernel
  obtain ⟨_, _, _, decoded, read⟩ := sound_of_length_lt small
  obtain ⟨chunks, _⟩ := read ⟨cutIndex, [], 0, none⟩ rfl
  refine ⟨small, ?_, (decoded none).truthful _ refused, (chunks 0xFFFFFFFFFFFFFFFF).ne_trap⟩
  rw [(decoded none).same, refused]
  rfl

end Trapping
end StoryBundle
