import StoryBundle.Proofs.Trapping.Basic
import StoryBundle.Story.Header
import StoryBundle.Story.Packaging

/-!
# Stories without traps

The fields of a header lie at fixed places near the front of a story, and the packaging of a file
shows in its first bytes. Both are read with a look at the length each time, so they trap on no file.
-/

namespace StoryBundle.Trapping

/-- Reads a header field by field. -/
def header (story : Bytes) : Trapping Header := do
  let version ← number 1 (← read .headerVersion story 0x00 1)
  let release ← number 2 (← read .headerRelease story 0x02 2)
  let serial ← filled 6 (← read .headerSerial story 0x12 6)
  let checksum ← number 2 (← read .headerChecksum story 0x1C 2)
  pure ⟨UInt8.ofNat version, UInt16.ofNat release, serial, UInt16.ofNat checksum⟩

theorem header_eq (story : Bytes) : header story = settled (Header.read story) := by
  refine settled_bind (read_eq (.inr (by decide))) fun version versionRead => ?_
  rw [number_eq (Region.length_of_read versionRead), Except.ok_bind_eq]
  refine settled_bind (read_eq (.inr (by decide))) fun release releaseRead => ?_
  rw [number_eq (Region.length_of_read releaseRead), Except.ok_bind_eq]
  refine settled_bind (read_eq (.inr (by decide))) fun serial serialRead => ?_
  rw [filled_eq (Region.length_of_read serialRead), Except.ok_bind_eq]
  refine settled_bind (read_eq (.inr (by decide))) fun checksum checksumRead => ?_
  rw [number_eq (Region.length_of_read checksumRead), Except.ok_bind_eq]
  rfl

/-- Bytes put over the front of others, which are taken to be as many. -/
def overwrite (under bytes : Bytes) : Trapping Bytes := do
  let front ← between under 0 bytes.length
  let bytes ← filled front.length bytes
  pure (bytes ++ under.drop front.length)

/-- The packaging of a file. The type of an IFF file is reported with zeros where bytes are
missing. -/
def packaging (data : Bytes) : Trapping Packaging := do
  let mark ← between data 0 (min data.length 4)
  if Bytes.sameIgnoringCase mark Packaging.glulxMark then refuse .glulxProgram
  else if Bytes.sameIgnoringCase mark Packaging.formMark then
    if Bytes.sameIgnoringCase ((between? data 8 12).getD []) Packaging.resourceMark then
      pure .wrapped
    else
      let rest := (between? data 8 data.length).getD []
      let type ← between rest 0 (min rest.length 4)
      let found ← tag (← overwrite [0, 0, 0, 0] type)
      refuse (.foreignContainer found)
  else if data.head?.any Packaging.isVersion then pure .bare
  else refuse (.unknownShape mark)

/-- As many bytes as there are, up to a width. -/
theorem between_min (data : Bytes) (width : Nat) :
    between data 0 (min data.length width) = .ok (data.take width) := by
  rw [between_front (Nat.min_le_left _ _), Nat.min_comm, ← List.take_eq_take_min]

/-- Type bytes that are not all there are not those of a resource container. -/
theorem sameIgnoringCase_type (data : Bytes) :
    Bytes.sameIgnoringCase ((between? data 8 12).getD []) Packaging.resourceMark =
      Bytes.sameIgnoringCase ((data.drop 8).take 4) Packaging.resourceMark := by
  by_cases enough : 12 ≤ data.length
  · rw [between?, if_pos ⟨by decide, enough⟩]
    rfl
  · have short : ((data.drop 8).take 4).length ≠ 4 := by
      rw [List.length_take, List.length_drop]
      omega
    have different : Bytes.sameIgnoringCase ((data.drop 8).take 4) Packaging.resourceMark = false := by
      rw [Bytes.sameIgnoringCase, beq_eq_false_iff_ne]
      intro same
      have lengths := congrArg List.length same
      rw [List.length_map, List.length_map] at lengths
      exact short lengths
    have absent : between? data 8 12 = none := if_neg fun room => enough room.2
    rw [absent, different]
    rfl

theorem between?_end (data : Bytes) (start : Nat) :
    (between? data start data.length).getD [] = data.drop start := by
  unfold between?
  split
  · rw [Option.getD_some, ← List.length_drop, List.take_length]
  · rw [Option.getD_none, List.drop_eq_nil_of_le (by omega)]

/-- The zeros of a tag are what is left of the bytes under it. -/
theorem overwrite_zeros {bytes : Bytes} (short : bytes.length ≤ 4) :
    (do let found ← overwrite [0, 0, 0, 0] bytes
        tag found) = .ok (Tag.ofBytes bytes) := by
  rw [overwrite, between_front short]
  match bytes, short with
  | [], _ | [_], _ | [_, _], _ | [_, _, _], _ | [_, _, _, _], _ => rfl

theorem packaging_eq (data : Bytes) : packaging data = settled (Packaging.detect data) := by
  have short : ((data.drop 8).take 4).length ≤ 4 := List.length_take_le _ _
  simp only [packaging, Packaging.detect, between_min, between?_end, sameIgnoringCase_type,
    Except.ok_bind_eq, ← bind_assoc]
  simp only [overwrite_zeros short, Except.ok_bind_eq]
  split
  · rfl
  · split <;> split <;> rfl

end StoryBundle.Trapping
