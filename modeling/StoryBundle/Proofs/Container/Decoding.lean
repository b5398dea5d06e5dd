import StoryBundle.Container.Basic
import StoryBundle.Proofs.Except

/-!
# What decoding a container amounts to

`decode_eq_ok_iff` takes a successful decoding apart into the parts of a container that it read and
the check that it passed, and `decode_eq_error_iff` says at which of them a decoding can fail. The
laws above them say when each part is read.
-/

namespace StoryBundle

theorem Chunk.read_eq_ok_iff {data : Bytes} {offset : Nat} {chunk : Chunk} :
    Chunk.read data offset = .ok chunk ↔
      ∃ header payload, data.slice? offset chunkHeaderSize = some header ∧
        data.slice? (offset + chunkHeaderSize) (Bytes.bigEndian (header.drop 4)) = some payload ∧
        ⟨offset, Tag.ofBytes header, payload⟩ = chunk := by
  simp only [Chunk.read, Except.bind_eq_ok_iff, Region.read_eq_ok_iff, pure, Except.pure,
    Except.ok.injEq]
  constructor
  · rintro ⟨header, started, payload, present, rfl⟩
    exact ⟨header, payload, started, present, rfl⟩
  · rintro ⟨header, payload, started, present, rfl⟩
    exact ⟨header, started, payload, present, rfl⟩

theorem Index.read_eq_ok_iff {data : Bytes} {at_ : Nat} {index : Index} :
    (Index.read data at_).outcome = .ok index ↔
      ∃ count rows, data.slice? (at_ + chunkHeaderSize) 4 = some count ∧
        data.slice? (at_ + chunkHeaderSize + 4) (Bytes.bigEndian count * Entry.size) = some rows ∧
        ofRows (Entry.readAll rows) = index := by
  simp only [Index.read, Logged.outcome_bind, Logged.outcome_quiet, Logged.outcome_note,
    Logged.outcome_tell, Logged.outcome_pure, Except.bind_eq_ok_iff, Except.ok_bind_eq,
    Region.read_eq_ok_iff, Except.ok.injEq]
  constructor
  · rintro ⟨count, counted, rows, present, listed⟩
    exact ⟨count, rows, counted, present, listed⟩
  · rintro ⟨count, rows, counted, present, listed⟩
    exact ⟨count, counted, rows, present, listed⟩

/-- Either the count is cut off or the rows that it counts are. -/
theorem Index.read_eq_error_iff {data : Bytes} {at_ : Nat} {cause : DecodeError} :
    (Index.read data at_).outcome = .error cause ↔
      (data.length < at_ + chunkHeaderSize + 4 ∧
        .truncated .resourceCount (at_ + chunkHeaderSize) 4 data.length = cause) ∨
      ∃ count, data.slice? (at_ + chunkHeaderSize) 4 = some count ∧
        data.length < at_ + chunkHeaderSize + 4 + Bytes.bigEndian count * Entry.size ∧
        .truncated .resourceEntries (at_ + chunkHeaderSize + 4) (Bytes.bigEndian count * Entry.size)
          data.length = cause := by
  simp only [Index.read, Logged.outcome_bind, Logged.outcome_quiet, Logged.outcome_note,
    Logged.outcome_tell, Logged.outcome_pure, Except.bind_eq_error_iff, Except.ok_bind_eq,
    Region.read_eq_ok_iff, Region.read_eq_error_iff, reduceCtorEq, and_false, exists_false, or_false]

namespace Container

/-- The reference that decoding keeps: none if it is empty. -/
def keptReference (reference : Option Bytes) : Option Bytes :=
  reference.filter fun story => !story.isEmpty

theorem keptReference_eq_some_iff {reference : Option Bytes} {story : Bytes} :
    keptReference reference = some story ↔ reference = some story ∧ story ≠ [] := by
  rw [keptReference, Option.filter_eq_some_iff]
  simp

theorem readRelease_eq_ok_iff {data : Bytes} {release : UInt16} :
    (readRelease data).outcome = .ok release ↔
      (locate? data Tag.releaseNumber = none ∧ release = 0) ∨
        ∃ at_ field, locate? data Tag.releaseNumber = some at_ ∧
          data.slice? (at_ + chunkHeaderSize) 2 = some field ∧ Bytes.word16 field = release := by
  simp only [readRelease, Logged.outcome_bind, outcome_search, Except.ok_bind_eq]
  cases locate? data Tag.releaseNumber with
  | none => simp [eq_comm]
  | some at_ => simp [Except.bind_eq_ok_iff, Region.read_eq_ok_iff]

theorem readRelease_eq_error_iff {data : Bytes} {cause : DecodeError} :
    (readRelease data).outcome = .error cause ↔
      ∃ at_, locate? data Tag.releaseNumber = some at_ ∧
        data.length < at_ + chunkHeaderSize + 2 ∧
        .truncated .releaseNumber (at_ + chunkHeaderSize) 2 data.length = cause := by
  simp only [readRelease, Logged.outcome_bind, outcome_search, Except.ok_bind_eq]
  cases locate? data Tag.releaseNumber with
  | none => simp
  | some at_ => simp [Except.bind_eq_error_iff, Region.read_eq_error_iff]

theorem decode_eq_ok_iff {data : Bytes} {reference : Option Bytes} {container : Container} :
    (decode data reference).outcome = .ok container ↔
      ∃ at_, locate? data Tag.resourceIndex = some at_ ∧
        (Index.read data at_).outcome = .ok container.index ∧
        (checkReference data (keptReference reference)).outcome = .ok () ∧
        (readRelease data).outcome = .ok container.release ∧
        container.data = data ∧ container.reference = keptReference reference := by
  simp only [decode, Logged.outcome_bind, Logged.outcome_note, outcome_search, Except.ok_bind_eq]
  cases locate? data Tag.resourceIndex with
  | none => simp
  | some at_ =>
    simp only [Logged.outcome_bind, Logged.outcome_note, Logged.outcome_pure, Except.ok_bind_eq,
      Except.bind_eq_ok_iff, Except.ok.injEq, Option.some.injEq, exists_eq_left']
    constructor
    · rintro ⟨index, listed, _, checked, release, stated, rfl⟩
      exact ⟨listed, checked, stated, rfl, rfl⟩
    · rintro ⟨listed, checked, stated, sameData, sameReference⟩
      refine ⟨container.index, listed, (), checked, container.release, stated, ?_⟩
      cases container
      cases sameData
      cases sameReference
      rfl

/-- The stages of decoding in order: a stage is reached only if those before it passed. -/
theorem decode_eq_error_iff {data : Bytes} {reference : Option Bytes} {cause : DecodeError} :
    (decode data reference).outcome = .error cause ↔
      (locate? data Tag.resourceIndex = none ∧ .missingIndex = cause) ∨
      ∃ at_, locate? data Tag.resourceIndex = some at_ ∧
        ((Index.read data at_).outcome = .error cause ∨
          (∃ index, (Index.read data at_).outcome = .ok index) ∧
            ((checkReference data (keptReference reference)).outcome = .error cause ∨
              (checkReference data (keptReference reference)).outcome = .ok () ∧
                (readRelease data).outcome = .error cause)) := by
  simp only [decode, Logged.outcome_bind, Logged.outcome_note, outcome_search, Except.ok_bind_eq]
  cases locate? data Tag.resourceIndex with
  | none => simp
  | some at_ =>
    simp only [Logged.outcome_bind, Logged.outcome_note, Logged.outcome_pure, Except.ok_bind_eq,
      Except.bind_eq_error_iff, reduceCtorEq, and_false, exists_false, or_false, false_and, false_or,
      Option.some.injEq, exists_eq_left', keptReference, exists_and_right]
    constructor
    · rintro (failed | ⟨listed, failed | ⟨⟨_, checked⟩, failed⟩⟩)
      · exact .inl failed
      · exact .inr ⟨listed, .inl failed⟩
      · exact .inr ⟨listed, .inr ⟨checked, failed⟩⟩
    · rintro (failed | ⟨listed, failed | ⟨checked, failed⟩⟩)
      · exact .inl failed
      · exact .inr ⟨listed, .inl failed⟩
      · exact .inr ⟨listed, .inr ⟨⟨(), checked⟩, failed⟩⟩

theorem executable_of_absent {container : Container} {number : UInt32}
    (absent : container.start? Tag.executable number = none) :
    (container.executable number).outcome = .error (.missingExecutable number) := by
  rw [executable, absent]
  rfl

/-- An executable that can be read must be a story. -/
theorem executable_of_read {container : Container} {number : UInt32} {start : Nat} {chunk : Chunk}
    (indexed : container.start? Tag.executable number = some start)
    (present : Chunk.read container.data start = .ok chunk) :
    (container.executable number).outcome =
      if chunk.tag = Tag.zcode then .ok chunk.payload else .error (.foreignExecutable chunk.tag) := by
  rw [executable, indexed]
  simp only [Logged.outcome_bind, Logged.outcome_quiet, present, Except.ok_bind_eq]
  split <;> rfl

theorem executable_eq_ok_iff {container : Container} {number : UInt32} {image : Bytes} :
    (container.executable number).outcome = .ok image ↔
      ∃ start chunk, container.start? Tag.executable number = some start ∧
        Chunk.read container.data start = .ok chunk ∧ chunk.tag = Tag.zcode ∧
        chunk.payload = image := by
  cases indexed : container.start? Tag.executable number with
  | none => simp [executable_of_absent indexed]
  | some start =>
    cases present : Chunk.read container.data start with
    | error cause => simp [executable, indexed, present]
    | ok chunk =>
      rw [executable_of_read indexed present]
      by_cases story : chunk.tag = Tag.zcode <;> simp [story, present]

end Container
end StoryBundle
