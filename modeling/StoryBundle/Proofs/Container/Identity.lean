import StoryBundle.Container.Basic
import StoryBundle.Proofs.Bytes
import StoryBundle.Proofs.Story.Header

/-!
# Identities that agree with a story

The check of an identity compares numbers. Since the fields have a fixed width, it passes only if
the bytes of each field are those in the header of the story (`fields_of_compare`).
-/

namespace StoryBundle

namespace Identity

theorem read_eq_ok_iff {data : Bytes} {at_ : Nat} {identity : Identity} :
    read data at_ = .ok identity ↔
      ∃ fields, data.slice? (at_ + chunkHeaderSize) 10 = some fields ∧
        ⟨Bytes.word16 (fields.take 2), (fields.drop 2).take 6, Bytes.word16 (fields.drop 8)⟩ =
          identity := by
  simp only [read, Except.bind_eq_ok_iff, Region.read_eq_ok_iff, pure, Except.pure,
    Except.ok.injEq]

theorem read_eq_error_iff {data : Bytes} {at_ : Nat} {cause : DecodeError} :
    read data at_ = .error cause ↔
      data.length < at_ + chunkHeaderSize + 10 ∧
        .truncated .identityFields (at_ + chunkHeaderSize) 10 data.length = cause := by
  simp only [read, Except.bind_eq_error_iff, Region.read_eq_error_iff, pure, Except.pure,
    reduceCtorEq, and_false, exists_false, or_false]

theorem mismatches_eq_nil_iff {identity : Identity} {header : Header} :
    identity.mismatches header = [] ↔
      identity.release = header.release ∧ identity.serial = header.serial ∧
        identity.checksum = header.checksum := by
  simp only [mismatches, List.append_eq_nil_iff, and_assoc]
  split <;> split <;> split <;> simp_all

theorem compare_eq_ok_iff {data story : Bytes} {at_ : Nat} :
    compare data at_ story = .ok () ↔
      ∃ identity header, read data at_ = .ok identity ∧ Header.read story = .ok header ∧
        identity.release = header.release ∧ identity.serial = header.serial ∧
          identity.checksum = header.checksum := by
  simp only [compare, Except.bind_eq_ok_iff, ← mismatches_eq_nil_iff]
  constructor
  · rintro ⟨identity, present, header, started, agreed⟩
    refine ⟨identity, header, present, started, ?_⟩
    split at agreed
    · assumption
    · cases agreed
  · rintro ⟨identity, header, present, started, agreed⟩
    refine ⟨identity, present, header, started, ?_⟩
    rw [agreed]

/-- The identity is cut off, or the header of the story is, or both are there and differ. -/
theorem compare_eq_error_iff {data story : Bytes} {at_ : Nat} {cause : DecodeError} :
    compare data at_ story = .error cause ↔
      (data.length < at_ + chunkHeaderSize + 10 ∧
        .truncated .identityFields (at_ + chunkHeaderSize) 10 data.length = cause) ∨
      ∃ identity, read data at_ = .ok identity ∧
        (Header.read story = .error cause ∨ ∃ header, Header.read story = .ok header ∧
          identity.mismatches header ≠ [] ∧
            .identityMismatch (identity.mismatches header) = cause) := by
  rw [compare, Except.bind_eq_error_iff, read_eq_error_iff]
  simp only [Except.bind_eq_error_iff]
  refine or_congr Iff.rfl (exists_congr fun identity => and_congr Iff.rfl (or_congr Iff.rfl
    (exists_congr fun header => and_congr Iff.rfl ?_)))
  cases identity.mismatches header <;> simp

theorem check_eq_ok_iff {data story : Bytes} :
    (check data story).outcome = .ok () ↔
      ∀ at_, locate? data Tag.storyIdentity = some at_ → compare data at_ story = .ok () := by
  simp only [check, Logged.outcome_bind, outcome_search, Except.ok_bind_eq]
  cases locate? data Tag.storyIdentity with
  | none => simp
  | some at_ => simp

theorem check_eq_error_iff {data story : Bytes} {cause : DecodeError} :
    (check data story).outcome = .error cause ↔
      ∃ at_, locate? data Tag.storyIdentity = some at_ ∧ compare data at_ story = .error cause := by
  simp only [check, Logged.outcome_bind, outcome_search, Except.ok_bind_eq]
  cases locate? data Tag.storyIdentity with
  | none => simp
  | some at_ => simp

/-- An identity that agrees with a story spells its fields with the bytes of the header. -/
theorem fields_of_compare {data story : Bytes} {at_ : Nat}
    (agreed : compare data at_ story = .ok ()) :
    Header.size ≤ story.length ∧ ∃ release serial checksum,
      data.slice? (at_ + 8) 2 = some release ∧ story.slice? 0x02 2 = some release ∧
      data.slice? (at_ + 10) 6 = some serial ∧ story.slice? 0x12 6 = some serial ∧
      data.slice? (at_ + 16) 2 = some checksum ∧ story.slice? 0x1C 2 = some checksum := by
  obtain ⟨_, _, stated, started, release, serial, checksum⟩ := compare_eq_ok_iff.mp agreed
  obtain ⟨fields, present, rfl⟩ := read_eq_ok_iff.mp stated
  obtain ⟨enough, rfl⟩ := Header.read_eq_ok_iff.mp started
  have width : fields.length = 10 := Bytes.length_of_slice? present
  have started : 0x1C + 2 ≤ story.length := enough
  have storyRelease : story.slice? 0x02 2 = some ((story.drop 0x02).take 2) :=
    Bytes.slice?_eq_some_iff.mpr ⟨by omega, rfl⟩
  have storySerial : story.slice? 0x12 6 = some ((story.drop 0x12).take 6) :=
    Bytes.slice?_eq_some_iff.mpr ⟨by omega, rfl⟩
  have storyChecksum : story.slice? 0x1C 2 = some ((story.drop 0x1C).take 2) :=
    Bytes.slice?_eq_some_iff.mpr ⟨by omega, rfl⟩
  -- The release and the checksum were compared as words, but a word has only one spelling.
  have sameRelease : fields.take 2 = (story.drop 0x02).take 2 :=
    Bytes.word16_injective (by rw [List.length_take]; omega)
      (Bytes.length_of_slice? storyRelease) release
  have sameChecksum : fields.drop 8 = (story.drop 0x1C).take 2 :=
    Bytes.word16_injective (by rw [List.length_drop]; omega)
      (Bytes.length_of_slice? storyChecksum) checksum
  have field (inner needed : Nat) (within : inner + needed ≤ 10) :
      data.slice? (at_ + chunkHeaderSize + inner) needed = some ((fields.drop inner).take needed) := by
    rw [Bytes.slice?_of_slice? present within]
    exact Bytes.slice?_eq_some_iff.mpr ⟨by omega, rfl⟩
  have rest : (fields.drop 8).take 2 = fields.drop 8 :=
    List.take_of_length_le (by rw [List.length_drop]; omega)
  refine ⟨enough, _, _, _, ?_, storyRelease, ?_, storySerial, ?_, storyChecksum⟩
  · exact (field 0 2 (by decide)).trans (congrArg some sameRelease)
  · exact (field 2 6 (by decide)).trans (congrArg some serial)
  · exact (field 8 2 (by decide)).trans (congrArg some (rest.trans sameChecksum))

end Identity

end StoryBundle
