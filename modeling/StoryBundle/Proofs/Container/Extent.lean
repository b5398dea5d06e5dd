import StoryBundle.Container.Layout
import StoryBundle.Proofs.Container.Decoding
import StoryBundle.Proofs.Container.Identity
import StoryBundle.Proofs.Container.Listing

/-!
# How far the fields of a container reach

Three kinds of chunks say what a container is, and decoding reads their fields at fixed places. How
much it reads is decided by the fields and by where the file ends (`decode_extent`), and not by the
length that the chunk declares, which only leads to the next chunk. So the fields of a chunk that is
too short for them go on in whatever follows it (`decode_crowded`).
-/

namespace StoryBundle

/-- The bytes of a file from the payload of a chunk on. -/
def Start.rest (data : Bytes) (start : Start) : Bytes := data.drop (start.offset + chunkHeaderSize)

/-- The identity that bytes spell with a release, a serial and a checksum. -/
def Identity.spelled (bytes : Bytes) : Identity :=
  ⟨Bytes.word16 (bytes.take 2), (bytes.drop 2).take 6, Bytes.word16 ((bytes.drop 8).take 2)⟩

/-- A kind of chunk whose fields are read when a container is decoded. -/
inductive Metadata where
  | index
  | identity
  | release
deriving DecidableEq, Repr

namespace Index.RowsAt

variable {data : Bytes} {place length : Nat} {rows : List Entry}

/-- Bytes in front of rows do not matter. -/
theorem drop (spelled : RowsAt data place rows) : RowsAt (data.drop place) 0 rows := by
  obtain ⟨count, counted, length, each⟩ := spelled
  refine ⟨count, Bytes.slice?_drop counted, length, fun position row listed => ?_⟩
  have own := each position row listed
  rw [Nat.add_assoc] at own
  rw [Nat.zero_add]
  exact Bytes.slice?_drop own

/-- Bytes past the rows do not matter. -/
theorem take (spelled : RowsAt data 0 rows)
    (covered : 4 + Bytes.bigEndian (data.take 4) * Entry.size ≤ length) :
    RowsAt (data.take length) 0 rows := by
  obtain ⟨count, counted, counts, each⟩ := spelled
  have front : data.take 4 = count := (Bytes.slice?_eq_some_iff.mp counted).2
  rw [front, ← counts] at covered
  refine ⟨count, Bytes.slice?_take counted (by omega), counts, fun position row listed => ?_⟩
  have inside : position < rows.length := (List.getElem?_eq_some_iff.mp listed).1
  refine Bytes.slice?_take (each position row listed) ?_
  rw [Entry.size] at covered ⊢
  omega

end Index.RowsAt

namespace Metadata

def tag : Metadata → Tag
  | index => Tag.resourceIndex
  | identity => Tag.storyIdentity
  | release => Tag.releaseNumber

/-- The chunk of this kind, with the length that it declares. -/
def start? (data : Bytes) (kind : Metadata) : Option Start := (chain data).find? (·.tag == kind.tag)

/-- How many bytes the fields take. For an index that depends on the count in front. -/
def size (bytes : Bytes) : Metadata → Nat
  | index => 4 + Bytes.bigEndian (bytes.take 4) * Entry.size
  | identity => 10
  | release => 2

/-- An identity is looked at only if there is a story to compare it with. -/
def Wanted (reference : Option Bytes) : Metadata → Prop
  | identity => ∃ story, reference = some story ∧ story ≠ []
  | _ => True

/-- A container has the fields that the bytes spell, or was compared with a story that has them. -/
def Tells (container : Container) (bytes : Bytes) : Metadata → Prop
  | index => ∃ rows, Index.RowsAt bytes 0 rows ∧ container.index.Lists rows
  | identity => ∃ story header, container.reference = some story ∧ Header.read story = .ok header ∧
      (Identity.spelled bytes).mismatches header = []
  | release => container.release = Bytes.word16 (bytes.take 2)

/-- The stages of decoding before this one pass. -/
def Reached (data : Bytes) (reference : Option Bytes) : Metadata → Prop
  | index => True
  | identity => ∃ at_ index, locate? data Tag.resourceIndex = some at_ ∧
      (Index.read data at_).outcome = .ok index
  | release => (∃ at_ index, locate? data Tag.resourceIndex = some at_ ∧
      (Index.read data at_).outcome = .ok index) ∧
      (Container.checkReference data (Container.keptReference reference)).outcome = .ok ()

/-- The report that a file ends within the fields. -/
def shortfall (data : Bytes) (start : Start) : Metadata → DecodeError
  | index =>
    let place := start.offset + chunkHeaderSize
    if (start.rest data).length < 4 then .truncated .resourceCount place 4 data.length
    else .truncated .resourceEntries (place + 4)
      (Bytes.bigEndian ((start.rest data).take 4) * Entry.size) data.length
  | identity => .truncated .identityFields (start.offset + chunkHeaderSize) 10 data.length
  | release => .truncated .releaseNumber (start.offset + chunkHeaderSize) 2 data.length

/-- The story that an identity is compared with is kept. -/
theorem Wanted.keptReference {reference : Option Bytes} (wanted : identity.Wanted reference) :
    ∃ story, Container.keptReference reference = some story := by
  obtain ⟨story, given⟩ := wanted
  exact ⟨story, Container.keptReference_eq_some_iff.mpr given⟩

theorem locate?_of_start? {data : Bytes} {kind : Metadata} {start : Start}
    (found : kind.start? data = some start) : locate? data kind.tag = some start.offset := by
  change (kind.start? data).map Start.offset = _
  rw [found, Option.map_some]

/-- Bytes past the fields do not matter. -/
theorem tells_take {container : Container} {bytes : Bytes} {length : Nat} {kind : Metadata}
    (covered : kind.size bytes ≤ length) (told : kind.Tells container bytes) :
    kind.Tells container (bytes.take length) := by
  cases kind with
  | index =>
    obtain ⟨rows, spelled, lists⟩ := told
    exact ⟨rows, spelled.take covered, lists⟩
  | identity =>
    have room : 10 ≤ length := covered
    have same : Identity.spelled (bytes.take length) = Identity.spelled bytes := by
      unfold Identity.spelled
      rw [List.take_take, Nat.min_eq_left (by omega), List.drop_take, List.take_take,
        Nat.min_eq_left (by omega), List.drop_take, List.take_take, Nat.min_eq_left (by omega)]
    obtain ⟨story, header, kept, started, agreed⟩ := told
    exact ⟨story, header, kept, started, by rw [same]; exact agreed⟩
  | release =>
    have room : 2 ≤ length := covered
    have same : (bytes.take length).take 2 = bytes.take 2 := by
      rw [List.take_take, Nat.min_eq_left room]
    unfold Tells at told ⊢
    rw [same]
    exact told

end Metadata

/-- A field that takes any room at all is read from the bytes that start at its place. -/
theorem Bytes.slice?_eq_some_iff_drop {data piece : Bytes} {offset needed : Nat}
    (positive : 0 < needed) : data.slice? offset needed = some piece ↔
      needed ≤ (data.drop offset).length ∧ (data.drop offset).take needed = piece := by
  rw [Bytes.slice?_eq_some_iff, List.length_drop]
  have fits : offset + needed ≤ data.length ↔ needed ≤ data.length - offset := by omega
  rw [fits]

section

variable {data : Bytes} {start : Start}

theorem Start.lt_of_length_rest_lt {needed : Nat} (short : (start.rest data).length < needed) :
    data.length < start.offset + chunkHeaderSize + needed := by
  rw [Start.rest, List.length_drop] at short
  omega

/-- An index that was read lies before the end of the file. -/
theorem Index.spelled_of_read {index : Index}
    (read : (Index.read data start.offset).outcome = .ok index) :
    Metadata.index.size (start.rest data) ≤ (start.rest data).length ∧
      ∃ rows, RowsAt (start.rest data) 0 rows ∧ index.Lists rows := by
  constructor
  · obtain ⟨count, rows, counted, present, rfl⟩ := Index.read_eq_ok_iff.mp read
    obtain ⟨_, rfl⟩ := (Bytes.slice?_eq_some_iff_drop (by decide)).mp counted
    obtain ⟨enough, rfl⟩ := Bytes.slice?_eq_some_iff.mp present
    change 4 + _ ≤ _
    rw [Start.rest, List.length_drop]
    omega
  · obtain ⟨rows, spelled, lists⟩ := Index.exists_rowsAt_of_read read
    exact ⟨rows, spelled.drop, lists⟩

/-- An index that the end of the file cuts off is not read. -/
theorem Index.read_of_short
    (short : (start.rest data).length < Metadata.index.size (start.rest data)) :
    (Index.read data start.offset).outcome = .error (Metadata.index.shortfall data start) := by
  rw [Index.read_eq_error_iff]
  unfold Metadata.shortfall
  by_cases counted : (start.rest data).length < 4
  · rw [if_pos counted]
    exact .inl ⟨Start.lt_of_length_rest_lt counted, rfl⟩
  · rw [if_neg counted]
    refine .inr ⟨(start.rest data).take 4, ?_, ?_, rfl⟩
    · exact (Bytes.slice?_eq_some_iff_drop (by decide)).mpr ⟨Nat.le_of_not_lt counted, rfl⟩
    · have past := Start.lt_of_length_rest_lt short
      rw [Metadata.size] at past
      omega

theorem Identity.spelled_of_read {identity : Identity}
    (read : Identity.read data start.offset = .ok identity) :
    10 ≤ (start.rest data).length ∧ identity = Identity.spelled (start.rest data) := by
  obtain ⟨fields, present, rfl⟩ := Identity.read_eq_ok_iff.mp read
  obtain ⟨enough, rfl⟩ := (Bytes.slice?_eq_some_iff_drop (by decide)).mp present
  refine ⟨enough, ?_⟩
  change _ = Identity.spelled (data.drop (start.offset + chunkHeaderSize))
  unfold Identity.spelled
  rw [List.take_take, List.drop_take, List.take_take, List.drop_take]
  rfl

end

namespace Container

variable {data : Bytes} {reference : Option Bytes}

/-- What decoding went through at each kind of chunk that it looked at. -/
theorem told_of_decode {container : Container} {kind : Metadata} {start : Start}
    (decoded : (decode data reference).outcome = .ok container) (wanted : kind.Wanted reference)
    (found : kind.start? data = some start) :
    kind.size (start.rest data) ≤ (start.rest data).length ∧
      kind.Tells container (start.rest data) := by
  obtain ⟨at_, indexed, listed, checked, released, _, kept⟩ := decode_eq_ok_iff.mp decoded
  have located := Metadata.locate?_of_start? found
  cases kind with
  | index =>
    rw [Metadata.tag, indexed, Option.some.injEq] at located
    subst located
    exact Index.spelled_of_read listed
  | identity =>
    obtain ⟨story, given⟩ := wanted.keptReference
    rw [given] at checked kept
    have agreed := Identity.check_eq_ok_iff.mp checked start.offset located
    obtain ⟨identity, header, read, started, same⟩ := Identity.compare_eq_ok_iff.mp agreed
    obtain ⟨enough, rfl⟩ := Identity.spelled_of_read read
    exact ⟨enough, story, header, kept, started, Identity.mismatches_eq_nil_iff.mpr same⟩
  | release =>
    rcases readRelease_eq_ok_iff.mp released with ⟨absent, _⟩ | ⟨other, field, stated, present, value⟩
    · rw [Metadata.tag, absent] at located
      cases located
    · rw [Metadata.tag, stated, Option.some.injEq] at located
      subst located
      obtain ⟨enough, rfl⟩ := (Bytes.slice?_eq_some_iff_drop (by decide)).mp present
      exact ⟨enough, value.symm⟩

/-- A stage that is reached fails where the file ends within its fields. -/
theorem decode_of_short {kind : Metadata} {start : Start} (wanted : kind.Wanted reference)
    (reached : kind.Reached data reference) (found : kind.start? data = some start)
    (short : (start.rest data).length < kind.size (start.rest data)) :
    (decode data reference).outcome = .error (kind.shortfall data start) := by
  have located := Metadata.locate?_of_start? found
  rw [decode_eq_error_iff]
  cases kind with
  | index => exact .inr ⟨start.offset, located, .inl (Index.read_of_short short)⟩
  | identity =>
    obtain ⟨at_, index, indexed, listed⟩ := reached
    obtain ⟨story, given⟩ := wanted.keptReference
    have refused : (checkReference data (keptReference reference)).outcome =
        .error (Metadata.identity.shortfall data start) := by
      rw [given]
      refine Identity.check_eq_error_iff.mpr ⟨start.offset, located, ?_⟩
      exact Identity.compare_eq_error_iff.mpr (.inl ⟨Start.lt_of_length_rest_lt short, rfl⟩)
    exact .inr ⟨at_, indexed, .inr ⟨⟨index, listed⟩, .inl refused⟩⟩
  | release =>
    obtain ⟨⟨at_, index, indexed, listed⟩, checked⟩ := reached
    have refused := readRelease_eq_error_iff.mpr
      ⟨start.offset, located, Start.lt_of_length_rest_lt short, rfl⟩
    exact .inr ⟨at_, indexed, .inr ⟨⟨index, listed⟩, .inr ⟨checked, refused⟩⟩⟩

/-- A container that decodes holds the fields of each chunk that was looked at before its end, and
they are in the chunk itself if its declared length has room for them. A file that ends within the
fields is refused as truncated, unless an earlier stage refuses it. -/
theorem decode_extent (data : Bytes) (reference : Option Bytes) :
    (∀ container, (decode data reference).outcome = .ok container →
      (Metadata.index.start? data).isSome ∧
      ∀ kind start, Metadata.Wanted reference kind → Metadata.start? data kind = some start →
        kind.size (start.rest data) ≤ (start.rest data).length ∧
        kind.Tells container (start.rest data) ∧
        ∀ length, start.length? = some length → kind.size (start.rest data) ≤ length →
          kind.Tells container ((start.rest data).take length)) ∧
    ∀ kind start, Metadata.Wanted reference kind → Metadata.start? data kind = some start →
      (start.rest data).length < kind.size (start.rest data) →
      (∀ container, (decode data reference).outcome ≠ .ok container) ∧
        (kind.Reached data reference →
          (decode data reference).outcome = .error (kind.shortfall data start)) := by
  constructor
  · intro container decoded
    constructor
    · obtain ⟨at_, indexed, _⟩ := decode_eq_ok_iff.mp decoded
      obtain ⟨start, found, _⟩ := Option.map_eq_some_iff.mp indexed
      exact Option.isSome_of_mem found
    · intro kind start wanted found
      obtain ⟨enough, told⟩ := told_of_decode decoded wanted found
      exact ⟨enough, told, fun length _ covered => Metadata.tells_take covered told⟩
  · intro kind start wanted found short
    constructor
    · intro container decoded
      obtain ⟨enough, _⟩ := told_of_decode decoded wanted found
      omega
    · intro reached
      exact decode_of_short wanted reached found short

/-- A file of complete chunks. -/
def fileOf (pieces : List Layout.Piece) : Bytes :=
  Packaging.formMark ++ Bytes.toBigEndian 4 (4 + (pieces.flatMap Layout.Piece.bytes).length) ++
    Packaging.resourceMark ++ pieces.flatMap Layout.Piece.bytes

/-- A story whose release and checksum are zero and whose serial ends in a two. -/
def plainStory : Bytes := 3 :: List.replicate 22 0 ++ 2 :: List.replicate 6 0

/-- Each chunk has room for its fields. -/
def roomy : Bytes :=
  fileOf [⟨Tag.resourceIndex, [0, 0, 0, 0]⟩, ⟨Tag.releaseNumber, [0, 7]⟩,
    ⟨Tag.storyIdentity, [0, 0, 0, 0, 0, 0, 0, 2, 0, 0]⟩]

theorem decode_extent_sample :
    (decode roomy (some plainStory)).outcome = .ok ⟨roomy, [], 7, some plainStory⟩ ∧
      Metadata.release.Tells ⟨roomy, [], 7, some plainStory⟩ [0, 7] ∧
      (decode (roomy.take 33) none).outcome = .error (.truncated .releaseNumber 32 2 33) := by
  have decoded : (decode roomy (some plainStory)).outcome = .ok ⟨roomy, [], 7, some plainStory⟩ := by
    decide +kernel
  have found : Metadata.release.start? roomy = some ⟨24, Tag.releaseNumber, some 2⟩ := by
    decide +kernel
  have cut : Metadata.release.start? (roomy.take 33) = some ⟨24, Tag.releaseNumber, some 2⟩ := by
    decide +kernel
  have listed : (Index.read (roomy.take 33) 12).outcome = .ok [] := by decide +kernel
  have reached : Metadata.release.Reached (roomy.take 33) none :=
    ⟨⟨12, [], by decide +kernel, listed⟩, rfl⟩
  obtain ⟨_, told⟩ := (decode_extent roomy (some plainStory)).1 _ decoded
  obtain ⟨_, _, own⟩ := told .release _ trivial found
  obtain ⟨_, refused⟩ :=
    (decode_extent (roomy.take 33) none).2 .release _ trivial cut (by decide +kernel)
  exact ⟨decoded, own 2 rfl (by decide +kernel), refused reached⟩

/-- Chunks without room: an index with a count and no row, then a release number and an identity
that have no payload at all. -/
def crowded : Bytes :=
  fileOf [⟨Tag.resourceIndex, [0, 0, 0, 1]⟩, ⟨Tag.releaseNumber, []⟩, ⟨Tag.storyIdentity, []⟩,
    ⟨⟨0, 0, 0, 0⟩, [0, 0]⟩]

/-- The row of the index is spelled by the headers of the two chunks after it. -/
def crowdedContainer : Container where
  data := crowded
  index := [⟨Tag.releaseNumber, 0, 0x49466864⟩]
  release := 0x4946
  reference := some plainStory

/-- A container decodes although none of its chunks declares room for the fields that are read. -/
theorem decode_crowded :
    (decode crowded (some plainStory)).outcome = .ok crowdedContainer ∧
      ∀ kind, Metadata.Wanted (some plainStory) kind ∧ ∃ start length,
        Metadata.start? crowded kind = some start ∧ start.length? = some length ∧
          length < kind.size (start.rest crowded) := by
  refine ⟨by decide +kernel, fun kind => ?_⟩
  cases kind with
  | index =>
    exact ⟨trivial, ⟨12, Tag.resourceIndex, some 4⟩, 4, by decide +kernel, rfl, by decide +kernel⟩
  | identity =>
    exact ⟨⟨plainStory, rfl, by decide⟩, ⟨32, Tag.storyIdentity, some 0⟩, 0, by decide +kernel, rfl,
      by decide +kernel⟩
  | release =>
    exact ⟨trivial, ⟨24, Tag.releaseNumber, some 0⟩, 0, by decide +kernel, rfl, by decide +kernel⟩

end Container
end StoryBundle
