import StoryBundle.Container.Layout
import StoryBundle.Proofs.Container.Chain

/-!
# What stands where in a laid-out container

The rows of the index say where the resources start (`readAll_rows`), the chain runs over all
pieces (`chain_pieces`), and each piece stands after those before it (`pieces_split`).
-/

namespace StoryBundle

/-- Twelve bytes spell an entry, whatever follows them. -/
theorem Entry.readAll_append {usage : Tag} {number start rest : Bytes} (numberWidth : number.length = 4)
    (startWidth : start.length = 4) :
    Entry.readAll (usage.toBytes ++ (number ++ (start ++ rest))) =
      ⟨usage, Bytes.word32 number, Bytes.word32 start⟩ :: Entry.readAll rest := by
  match number, numberWidth, start, startWidth with
  | [_, _, _, _], _, [_, _, _, _], _ =>
    simp only [Tag.toBytes, List.cons_append, List.nil_append]
    rw [Entry.readAll]

namespace Layout

def Resource.key (resource : Resource) : Tag × UInt32 := (resource.usage, resource.number)

/-- The bytes in front of the first chunk. -/
def formHeader (resources : List Resource) (extras : List Piece) : Bytes :=
  Packaging.formMark ++ Bytes.toBigEndian 4 (4 + (body resources extras).length) ++
    Packaging.resourceMark

/-- Every piece of a file, the index first. -/
def pieces (resources : List Resource) (extras : List Piece) : List Piece :=
  index resources :: (resources.map Resource.piece ++ extras)

/-- What the rows of the index say, when the first of the resources starts at `start`. -/
def entries : Nat → List Resource → List Entry
  | _, [] => []
  | start, resource :: rest =>
    ⟨resource.usage, resource.number, UInt32.ofNat start⟩ ::
      entries (start + resource.piece.bytes.length) rest

variable {resources : List Resource} {extras : List Piece}

/-! ## The index -/

theorem length_rows (start : Nat) (resources : List Resource) :
    (rows start resources).length = Entry.size * resources.length := by
  induction resources generalizing start with
  | nil => rfl
  | cons resource rest ih =>
    simp only [rows, entryBytes, List.length_append, Tag.length_toBytes, Bytes.length_toBigEndian,
      ih, List.length_cons, Entry.size]
    omega

theorem readAll_rows (start : Nat) (resources : List Resource) :
    Entry.readAll (rows start resources) = entries start resources := by
  induction resources generalizing start with
  | nil => rfl
  | cons resource rest ih =>
    rw [rows, entryBytes, List.append_assoc, List.append_assoc,
      Entry.readAll_append (Bytes.length_toBigEndian 4 _) (Bytes.length_toBigEndian 4 _), ih,
      Bytes.word32_toBigEndian, Bytes.word32_toBigEndian, UInt32.ofNat_toNat, entries]

theorem entries_append (start : Nat) (before after : List Resource) :
    entries start (before ++ after) = entries start before ++
      entries (start + (before.flatMap (·.piece.bytes)).length) after := by
  induction before generalizing start with
  | nil => rfl
  | cons resource rest ih =>
    rw [List.cons_append, entries, ih, List.flatMap_cons, List.length_append, ← Nat.add_assoc]
    rfl

theorem map_key_entries (start : Nat) (resources : List Resource) :
    (entries start resources).map Entry.key = resources.map Resource.key := by
  induction resources generalizing start with
  | nil => rfl
  | cons resource rest ih =>
    rw [entries, List.map_cons, List.map_cons, ih]
    rfl

theorem length_index (resources : List Resource) : (index resources).bytes.length =
    chunkHeaderSize + 4 + Entry.size * resources.length := by
  rw [Piece.length_bytes]
  simp only [index, List.length_append, Bytes.length_toBigEndian, length_rows, Entry.size]
  omega

/-! ## The file -/

theorem length_formHeader (resources : List Resource) (extras : List Piece) :
    (formHeader resources extras).length = firstChunk := by
  simp only [formHeader, List.length_append, Bytes.length_toBigEndian]
  rfl

theorem file_eq (resources : List Resource) (extras : List Piece) :
    file resources extras =
      formHeader resources extras ++ (pieces resources extras).flatMap Piece.bytes := by
  simp only [file, formHeader, body, pieces, List.flatMap_cons, List.flatMap_append,
    List.flatMap_map, List.append_assoc]

/-! ## Pieces behind a header -/

section

variable {header : Bytes} {parts : List Piece}

/-- Each piece stands after the header and the pieces before it. -/
theorem pieces_split (header : Bytes) (before after : List Piece) (piece : Piece) :
    header ++ (before ++ piece :: after).flatMap Piece.bytes =
      (header ++ before.flatMap Piece.bytes) ++ (piece.bytes ++ after.flatMap Piece.bytes) := by
  rw [List.flatMap_append, List.flatMap_cons, List.append_assoc]

/-- A form header with pieces behind it, each of a length that can be written down, and all of them
within the address space. -/
structure Fits (header : Bytes) (parts : List Piece) : Prop where
  width : header.length = firstChunk
  written : ∀ piece ∈ parts, piece.payload.length < UInt32.size
  reached : (header ++ parts.flatMap Piece.bytes).length < addressLimit

/-- No payload is longer than the file. -/
theorem payload_le_of_mem {piece : Piece} (member : piece ∈ parts) :
    piece.payload.length ≤ (parts.flatMap Piece.bytes).length := by
  obtain ⟨before, after, rfl⟩ := List.append_of_mem member
  rw [List.flatMap_append, List.flatMap_cons, List.length_append, List.length_append,
    Piece.length_bytes]
  omega

theorem Fits.of_small (width : header.length = firstChunk)
    (small : (header ++ parts.flatMap Piece.bytes).length < UInt32.size) : Fits header parts where
  width := width
  written piece member := by
    have inside := payload_le_of_mem member
    rw [List.length_append] at small
    omega
  reached := Nat.lt_trans small (by decide)

theorem chain_pieces (fits : Fits header parts) :
    chain (header ++ parts.flatMap Piece.bytes) = startsOf firstChunk parts := by
  have reached := fits.reached
  rw [List.length_append, fits.width] at reached
  rw [chain, List.drop_left' fits.width, startsFrom_pieces fits.written reached]

/-- What a search finds is a piece with the tag. -/
theorem exists_piece_of_locate? (fits : Fits header parts) {tag : Tag} {at_ : Nat}
    (found : locate? (header ++ parts.flatMap Piece.bytes) tag = some at_) :
    ∃ before piece after, parts = before ++ piece :: after ∧ piece.tag = tag ∧
      at_ = (header ++ before.flatMap Piece.bytes).length := by
  rw [locate?, chain_pieces fits, Option.map_eq_some_iff] at found
  obtain ⟨start, first, rfl⟩ := found
  obtain ⟨before, piece, after, split, sameTag, place⟩ :=
    exists_piece_of_mem_startsOf (List.mem_of_find?_eq_some first)
  have asked : start.tag = tag := by simpa using List.find?_some first
  refine ⟨before, piece, after, split, sameTag.trans asked, ?_⟩
  rw [place, List.length_append, fits.width]

/-- A piece is found where it stands, unless one before it has its tag. -/
theorem locate?_piece {before after : List Piece} {piece : Piece}
    (fits : Fits header (before ++ piece :: after))
    (unseen : ∀ earlier ∈ before, earlier.tag ≠ piece.tag) :
    locate? (header ++ (before ++ piece :: after).flatMap Piece.bytes) piece.tag =
      some (firstChunk + (before.flatMap Piece.bytes).length) := by
  have passed : (startsOf firstChunk before).find? (·.tag == piece.tag) = none := by
    rw [List.find?_eq_none]
    intro start listed tagged
    obtain ⟨front, earlier, rest, rfl, sameTag, _⟩ := exists_piece_of_mem_startsOf listed
    exact unseen earlier (by simp) (sameTag.trans (by simpa using tagged))
  rw [locate?, chain_pieces fits, startsOf_append, List.find?_append, passed, Option.none_or,
    startsOf, List.find?_cons, beq_self_eq_true]
  rfl

/-- The first piece is found at once. -/
theorem locate?_first {piece : Piece} (fits : Fits header (piece :: parts)) :
    locate? (header ++ (piece :: parts).flatMap Piece.bytes) piece.tag = some firstChunk :=
  @locate?_piece header [] parts piece fits nofun

end

end Layout
end StoryBundle
