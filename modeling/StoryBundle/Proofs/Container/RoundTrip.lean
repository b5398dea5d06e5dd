import StoryBundle.Proofs.Container.Decoding
import StoryBundle.Proofs.Container.Index
import StoryBundle.Proofs.Container.Layout

/-!
# Decoding what was laid out

A container that was laid out decodes, and each resource is read back as it was put in, the last
one where several have one key (`decode_file`).
-/

namespace StoryBundle
namespace Layout

variable {resources : List Resource} {extras : List Piece}

/-- No resource after this one has its key. -/
def IsLast (resources : List Resource) (resource : Resource) : Prop :=
  ∃ before after, resources = before ++ resource :: after ∧
    ∀ later ∈ after, later.key ≠ resource.key

/-- A slice of a payload stands as far past the chunk header as it stands in the payload. -/
theorem slice?_payload {front rest : Bytes} {piece : Piece} {offset skipped needed : Nat}
    (place : offset = front.length + chunkHeaderSize + skipped)
    (inside : skipped + needed ≤ piece.payload.length) :
    Bytes.slice? (front ++ (piece.bytes ++ rest)) offset needed =
      piece.payload.slice? skipped needed := by
  have shape : front ++ (piece.bytes ++ rest) =
      (front ++ (piece.tag.toBytes ++ Bytes.toBigEndian 4 piece.payload.length)) ++
        (piece.payload ++ (List.replicate (piece.payload.length % 2) 0 ++ rest)) := by
    simp only [Piece.bytes, List.append_assoc]
  have width : front.length + chunkHeaderSize =
      (front ++ (piece.tag.toBytes ++ Bytes.toBigEndian 4 piece.payload.length)).length := by
    simp only [List.length_append, Tag.length_toBytes, Bytes.length_toBigEndian, chunkHeaderSize]
  rw [place, shape, width, Bytes.slice?_append_right, Bytes.slice?_append_left inside]

/-- The chunk at a piece is the piece. -/
theorem read_piece {front rest : Bytes} {piece : Piece} (small : piece.bytes.length < UInt32.size) :
    Chunk.read (front ++ (piece.bytes ++ rest)) front.length =
      .ok ⟨front.length, piece.tag, piece.payload⟩ := by
  let header := piece.tag.toBytes ++ Bytes.toBigEndian 4 piece.payload.length
  have started : Bytes.slice? (front ++ (piece.bytes ++ rest)) front.length chunkHeaderSize =
      some header := by
    simp only [Piece.bytes, List.append_assoc]
    rw [← List.append_assoc piece.tag.toBytes]
    exact Bytes.slice?_middle rfl rfl
  have length : Bytes.bigEndian (header.drop 4) = piece.payload.length := by
    rw [List.drop_left' (Tag.length_toBytes piece.tag)]
    have payload := piece.length_bytes
    exact Piece.bigEndian_length (by omega)
  rw [Chunk.read_eq_ok_iff]
  refine ⟨header, piece.payload, started, ?_, rfl⟩
  rw [length]
  exact (slice?_payload (Nat.add_zero _).symm (Nat.le_of_eq (Nat.zero_add _))).trans
    (Bytes.slice?_self _)

/-- An index with a count and with the bytes of its rows. -/
def indexPiece (count : Nat) (rows : Bytes) : Piece :=
  ⟨Tag.resourceIndex, Bytes.toBigEndian 4 count ++ rows⟩

/-- The index that is read at such a piece is that of its rows. -/
theorem read_indexPiece {front rest rows : Bytes} {count : Nat} (few : count < UInt32.size)
    (width : rows.length = count * Entry.size) :
    (Index.read (front ++ ((indexPiece count rows).bytes ++ rest)) front.length).outcome =
      .ok (Index.ofRows (Entry.readAll rows)) := by
  have countWidth := Bytes.length_toBigEndian 4 count
  have counted : (Bytes.toBigEndian 4 count ++ rows).slice? 0 4 = some (Bytes.toBigEndian 4 count) := by
    rw [Bytes.slice?_append_left (by omega)]
    exact countWidth ▸ Bytes.slice?_self _
  have listed : (Bytes.toBigEndian 4 count ++ rows).slice? 4 (count * Entry.size) = some rows := by
    have past := Bytes.slice?_append_right (Bytes.toBigEndian 4 count) rows 0 (count * Entry.size)
    rw [countWidth, Nat.add_zero] at past
    rw [past, ← width, Bytes.slice?_self]
  rw [Index.read_eq_ok_iff]
  refine ⟨Bytes.toBigEndian 4 count, rows, ?_, ?_, rfl⟩
  · rw [← counted]
    exact slice?_payload (Nat.add_zero _).symm (by rw [indexPiece, List.length_append]; omega)
  · rw [Bytes.bigEndian_toBigEndian_of_lt few, ← listed]
    exact slice?_payload rfl (by rw [indexPiece, List.length_append]; omega)

/-- A release number is read if each piece that may state one has room for it. -/
theorem exists_readRelease {header : Bytes} {parts : List Piece} (width : header.length = firstChunk)
    (small : (header ++ parts.flatMap Piece.bytes).length < UInt32.size)
    (stated : ∀ piece ∈ parts, piece.tag = Tag.releaseNumber → 2 ≤ piece.payload.length) :
    ∃ release,
      (Container.readRelease (header ++ parts.flatMap Piece.bytes)).outcome = .ok release := by
  cases found : locate? (header ++ parts.flatMap Piece.bytes) Tag.releaseNumber with
  | none => exact ⟨0, Container.readRelease_eq_ok_iff.mpr (.inl ⟨found, rfl⟩)⟩
  | some at_ =>
    obtain ⟨before, piece, after, rfl, tagged, place⟩ :=
      exists_piece_of_locate? (.of_small width small) found
    have enough : 2 ≤ piece.payload.length :=
      stated piece (List.mem_append_right before List.mem_cons_self) tagged
    have field : (header ++ (before ++ piece :: after).flatMap Piece.bytes).slice?
        (at_ + chunkHeaderSize) 2 = piece.payload.slice? 0 2 := by
      rw [pieces_split, place]
      exact slice?_payload (Nat.add_zero _).symm (by omega)
    have present : piece.payload.slice? 0 2 = some (piece.payload.take 2) :=
      Bytes.slice?_eq_some_iff.mpr ⟨by omega, rfl⟩
    exact ⟨_, Container.readRelease_eq_ok_iff.mpr
      (.inr ⟨at_, _, found, field.trans present, rfl⟩)⟩

/-- A container whose first piece is an index decodes to the index of its rows. -/
theorem exists_decode_pieces {data header rows : Bytes} {count : Nat} {rest : List Piece}
    (made : data = header ++ (indexPiece count rows :: rest).flatMap Piece.bytes)
    (width : header.length = firstChunk) (rowsWidth : rows.length = count * Entry.size)
    (small : data.length < UInt32.size)
    (stated : ∀ piece ∈ rest, piece.tag = Tag.releaseNumber → 2 ≤ piece.payload.length) :
    ∃ release, (Container.decode data none).outcome =
      .ok ⟨data, Index.ofRows (Entry.readAll rows), release, none⟩ := by
  subst made
  -- The count is cut off to a word, but each row that it counts takes room in the file.
  have few : count < UInt32.size := by
    rw [List.flatMap_cons, List.length_append, List.length_append, Piece.length_bytes] at small
    simp only [indexPiece, List.length_append, rowsWidth, Entry.size] at small
    omega
  have statedByAll : ∀ piece ∈ indexPiece count rows :: rest,
      piece.tag = Tag.releaseNumber → 2 ≤ piece.payload.length := by
    intro piece member tagged
    rcases List.mem_cons.mp member with rfl | other
    · -- The index has a tag of its own.
      cases tagged
    · exact stated piece other tagged
  obtain ⟨release, released⟩ := exists_readRelease width small statedByAll
  have listed := @read_indexPiece header (rest.flatMap Piece.bytes) rows count few rowsWidth
  rw [width, ← List.flatMap_cons] at listed
  exact ⟨release, Container.decode_eq_ok_iff.mpr
    ⟨firstChunk, locate?_first (.of_small width small), listed, rfl, released, rfl, rfl⟩⟩

/-- Decoding keeps the bytes and an index of all resources. -/
theorem exists_decode_file (small : (file resources extras).length < UInt32.size)
    (stated : ∀ piece ∈ resources.map Resource.piece ++ extras,
      piece.tag = Tag.releaseNumber → 2 ≤ piece.payload.length) :
    ∃ container, (Container.decode (file resources extras) none).outcome = .ok container ∧
      container.data = file resources extras ∧
      container.index = Index.ofRows (entries (firstResource resources) resources) := by
  have rowsWidth : (rows (firstResource resources) resources).length =
      resources.length * Entry.size := by
    rw [length_rows, Nat.mul_comm]
  obtain ⟨release, decoded⟩ := exists_decode_pieces (file_eq resources extras)
    (length_formHeader resources extras) rowsWidth small stated
  rw [readAll_rows] at decoded
  exact ⟨_, decoded, rfl, rfl⟩

/-! ## Resources -/

theorem start?_entries_eq_none_iff {start : Nat} {usage : Tag} {number : UInt32} :
    (Index.ofRows (entries start resources)).start? usage number = none ↔
      ∀ resource ∈ resources, resource.key ≠ (usage, number) := by
  rw [Index.start?_ofRows_eq_none_iff]
  have sameKeys := map_key_entries start resources
  constructor
  · intro absent resource member sameKey
    have listed : (usage, number) ∈ (entries start resources).map Entry.key := by
      rw [sameKeys, ← sameKey]
      exact List.mem_map_of_mem member
    obtain ⟨row, inIndex, rowKey⟩ := List.mem_map.mp listed
    exact absent row inIndex rowKey
  · intro absent row member rowKey
    have listed : (usage, number) ∈ resources.map Resource.key := by
      rw [← sameKeys, ← rowKey]
      exact List.mem_map_of_mem member
    obtain ⟨resource, inResources, sameKey⟩ := List.mem_map.mp listed
    exact absent resource inResources sameKey

/-- The index leads to the last resource with a key. -/
theorem start?_entries_of_last {start : Nat} {before after : List Resource} {resource : Resource}
    (last : ∀ later ∈ after, later.key ≠ resource.key)
    (small : start + (before.flatMap (·.piece.bytes)).length < UInt32.size) :
    (Index.ofRows (entries start (before ++ resource :: after))).start? resource.usage
      resource.number = some (start + (before.flatMap (·.piece.bytes)).length) := by
  rw [entries_append, entries]
  refine (Index.start?_ofRows_of_last ?_).trans ?_
  · intro later member sameKey
    have listed : resource.key ∈ after.map Resource.key := by
      rw [← map_key_entries _ after, List.mem_map]
      exact ⟨later, member, sameKey⟩
    obtain ⟨other, inAfter, otherKey⟩ := List.mem_map.mp listed
    exact last other inAfter otherKey
  · rw [UInt32.toNat_ofNat', Nat.mod_eq_of_lt small]

/-- A resource stands where its row says. -/
theorem exists_split_of_resource (extras : List Piece) {before after : List Resource}
    {resource : Resource} (parts : resources = before ++ resource :: after) :
    ∃ front rest, file resources extras = front ++ (resource.piece.bytes ++ rest) ∧
      front.length = firstResource resources + (before.flatMap (·.piece.bytes)).length := by
  have allParts : pieces resources extras = (index resources :: before.map Resource.piece) ++
      resource.piece :: (after.map Resource.piece ++ extras) := by
    rw [pieces, parts]
    simp only [List.map_append, List.map_cons, List.append_assoc, List.cons_append]
  refine ⟨_, _, by rw [file_eq, allParts, pieces_split], ?_⟩
  simp only [List.length_append, List.flatMap_cons, List.flatMap_map, length_formHeader,
    length_index, firstResource]
  omega

/-- The last resource with a key is the one that is looked up, and its chunk is its piece. -/
theorem start?_of_isLast (small : (file resources extras).length < UInt32.size) {resource : Resource}
    (last : IsLast resources resource) :
    ∃ start, (Index.ofRows (entries (firstResource resources) resources)).start? resource.usage
        resource.number = some start ∧
      Chunk.read (file resources extras) start =
        .ok ⟨start, resource.piece.tag, resource.piece.payload⟩ := by
  obtain ⟨before, after, parts, none⟩ := last
  obtain ⟨front, rest, split, place⟩ := exists_split_of_resource extras parts
  have width := resource.piece.length_bytes
  rw [split, List.length_append, List.length_append] at small
  refine ⟨front.length, ?_, ?_⟩
  · rw [place, parts]
    exact start?_entries_of_last none (by rw [← parts]; omega)
  · rw [split]
    exact read_piece (by omega)

/-- A laid-out container decodes. For each key it gives nothing exactly if no resource has the key,
and otherwise the tag and the payload of the last one that has it. -/
theorem decode_file (small : (file resources extras).length < UInt32.size)
    (stated : ∀ piece ∈ resources.map Resource.piece ++ extras,
      piece.tag = Tag.releaseNumber → 2 ≤ piece.payload.length) :
    ∃ container, (Container.decode (file resources extras) none).outcome = .ok container ∧
      (∀ usage number,
        (container.resource? usage number = none ↔
          ∀ resource ∈ resources, resource.key ≠ (usage, number)) ∧
        ∀ resource, IsLast resources resource → resource.key = (usage, number) →
          ∃ start, container.resource? usage number =
            some (.ok ⟨start, resource.piece.tag, resource.piece.payload⟩)) ∧
      ∀ number,
        ((∀ resource ∈ resources, resource.key ≠ (Tag.executable, number)) →
          (container.executable number).outcome = .error (.missingExecutable number)) ∧
        ∀ resource, IsLast resources resource → resource.key = (Tag.executable, number) →
          (container.executable number).outcome =
            if resource.piece.tag = Tag.zcode then .ok resource.piece.payload
            else .error (.foreignExecutable resource.piece.tag) := by
  obtain ⟨container, decoded, sameData, sameIndex⟩ := exists_decode_file small stated
  have absent : ∀ usage number, container.start? usage number = none ↔
      ∀ resource ∈ resources, resource.key ≠ (usage, number) := by
    intro usage number
    rw [Container.start?, sameIndex]
    exact start?_entries_eq_none_iff
  have present : ∀ usage number resource, IsLast resources resource →
      resource.key = (usage, number) → ∃ start, container.start? usage number = some start ∧
        Chunk.read container.data start =
          .ok ⟨start, resource.piece.tag, resource.piece.payload⟩ := by
    rintro usage number resource last ⟨⟩
    rw [Container.start?, sameIndex, sameData]
    exact start?_of_isLast small last
  refine ⟨container, decoded, fun usage number => ⟨?_, ?_⟩, fun number => ⟨?_, ?_⟩⟩
  · rw [Container.resource?, Option.map_eq_none_iff, absent]
  · intro resource last sameKey
    obtain ⟨start, indexed, chunk⟩ := present usage number resource last sameKey
    exact ⟨start, by rw [Container.resource?, indexed, Option.map_some, chunk]⟩
  · intro none
    exact Container.executable_of_absent ((absent _ _).mpr none)
  · intro resource last sameKey
    obtain ⟨start, indexed, chunk⟩ := present Tag.executable number resource last sameKey
    exact Container.executable_of_read indexed chunk

/-- A story of odd length, two pictures under one number, and a payload that looks like an index. -/
def sampleResources : List Resource :=
  [⟨Tag.executable, 0, ⟨Tag.zcode, [3, 0, 0, 88, 1]⟩⟩,
    ⟨⟨0x50, 0x69, 0x63, 0x74⟩, 1, ⟨⟨0x50, 0x4E, 0x47, 0x20⟩, [1]⟩⟩,
    ⟨⟨0x50, 0x69, 0x63, 0x74⟩, 1, ⟨⟨0x50, 0x4E, 0x47, 0x20⟩, Tag.resourceIndex.toBytes⟩⟩]

def sampleExtras : List Piece := [⟨Tag.releaseNumber, [0, 7]⟩]

theorem decode_file_sample :
    (file sampleResources sampleExtras).length < UInt32.size ∧
      (∀ piece ∈ sampleResources.map Resource.piece ++ sampleExtras,
        piece.tag = Tag.releaseNumber → 2 ≤ piece.payload.length) ∧
      ∃ container,
        (Container.decode (file sampleResources sampleExtras) none).outcome = .ok container ∧
        (∃ start, container.resource? ⟨0x50, 0x69, 0x63, 0x74⟩ 1 =
          some (.ok ⟨start, ⟨0x50, 0x4E, 0x47, 0x20⟩, Tag.resourceIndex.toBytes⟩)) ∧
        (container.executable 0).outcome = .ok [3, 0, 0, 88, 1] ∧
        (container.executable 1).outcome = .error (.missingExecutable 1) := by
  have small : (file sampleResources sampleExtras).length < UInt32.size := by decide
  have stated : ∀ piece ∈ sampleResources.map Resource.piece ++ sampleExtras,
      piece.tag = Tag.releaseNumber → 2 ≤ piece.payload.length := by decide
  obtain ⟨container, decoded, resources, executables⟩ := decode_file small stated
  refine ⟨small, stated, container, decoded, ?_, ?_, ?_⟩
  · exact (resources _ _).2 _ ⟨sampleResources.take 2, [], rfl, by simp⟩ rfl
  · exact (executables 0).2 _ ⟨[], sampleResources.drop 1, rfl, by decide⟩ rfl
  · exact (executables 1).1 (by decide)

end Layout
end StoryBundle
