import StoryBundle.Proofs.Container.Extent
import StoryBundle.Proofs.Container.Layout

/-!
# The form header does not count

The twelve bytes in front of the first chunk say how long the form is and what it holds, but nothing
that decodes a container looks at them: searches start behind them and only go forward, and all other
reading starts from what a search found. So two files that differ only there decode alike
(`decode_any_header`), and a chunk behind the declared end of the form is a chunk like any other.
-/

namespace StoryBundle

/-- The same computation with its value put in other terms. -/
def Logged.mapValue {ε α β : Type} (f : α → β) (computation : Logged ε α) : Logged ε β :=
  ⟨computation.outcome.map f, computation.notes⟩

theorem Logged.mapValue_bind {ε α β γ : Type} (f : β → γ) (first : Logged ε α)
    (next : α → Logged ε β) :
    (first >>= next).mapValue f = first >>= fun value => (next value).mapValue f := by
  obtain ⟨_ | value, notes⟩ := first <;> rfl

/-- Two files of one length that differ only in the form header. -/
structure SameBody (left right : Bytes) : Prop where
  length : left.length = right.length
  body : left.drop firstChunk = right.drop firstChunk

namespace SameBody

variable {left right : Bytes} {offset : Nat}

theorem drop_eq (same : SameBody left right) (behind : firstChunk ≤ offset) :
    left.drop offset = right.drop offset := by
  have split : firstChunk + (offset - firstChunk) = offset := Nat.add_sub_of_le behind
  rw [← split, ← List.drop_drop, ← List.drop_drop, same.body]

theorem read_eq (same : SameBody left right) (behind : firstChunk ≤ offset) (region : Region)
    (needed : Nat) : region.read left offset needed = region.read right offset needed := by
  rw [Region.read, Region.read, Bytes.slice?, Bytes.slice?, same.drop_eq behind, same.length]

theorem chunk_eq (same : SameBody left right) (behind : firstChunk ≤ offset) :
    Chunk.read left offset = Chunk.read right offset := by
  have payload : firstChunk ≤ offset + chunkHeaderSize := Nat.le_add_right_of_le behind
  simp only [Chunk.read, same.read_eq behind, same.read_eq payload]

theorem chain_eq (same : SameBody left right) : chain left = chain right := by
  rw [chain, chain, same.body]

theorem locate?_eq (same : SameBody left right) (tag : Tag) : locate? left tag = locate? right tag := by
  rw [locate?, locate?, same.chain_eq]

theorem search_eq {ε : Type} (same : SameBody left right) (tag : Tag) :
    (search left tag : Logged ε (Option Nat)) = search right tag := by
  simp only [search, searchNotes, same.locate?_eq, same.chain_eq]

/-- What follows a search is alike if it is alike for every place that a search can find. -/
theorem search_bind {ε α : Type} {tag : Tag} {next other : Option Nat → Logged ε α}
    (same : SameBody left right) (nothing : next none = other none)
    (found : ∀ at_, firstChunk ≤ at_ → next (some at_) = other (some at_)) :
    (search left tag >>= next) = (search right tag >>= other) := by
  rw [same.search_eq, search, Logged.ok_bind, Logged.ok_bind]
  cases located : locate? right tag with
  | none => rw [nothing]
  | some at_ => rw [found at_ (firstChunk_le_of_locate? located)]

theorem index_eq (same : SameBody left right) (behind : firstChunk ≤ offset) :
    Index.read left offset = Index.read right offset := by
  have count : firstChunk ≤ offset + chunkHeaderSize := Nat.le_add_right_of_le behind
  have rows : firstChunk ≤ offset + chunkHeaderSize + 4 := Nat.le_add_right_of_le count
  simp only [Index.read, same.read_eq count, same.read_eq rows]

theorem compare_eq (same : SameBody left right) (behind : firstChunk ≤ offset) (story : Bytes) :
    Identity.compare left offset story = Identity.compare right offset story := by
  have fields : firstChunk ≤ offset + chunkHeaderSize := Nat.le_add_right_of_le behind
  simp only [Identity.compare, Identity.read, same.read_eq fields]

theorem checkReference_eq (same : SameBody left right) (reference : Option Bytes) :
    Container.checkReference left reference = Container.checkReference right reference := by
  cases reference with
  | none => rfl
  | some story =>
    exact same.search_bind rfl fun at_ behind => congrArg Logged.quiet (same.compare_eq behind story)

theorem readRelease_eq (same : SameBody left right) :
    Container.readRelease left = Container.readRelease right := by
  refine same.search_bind rfl fun at_ behind => ?_
  have field : firstChunk ≤ at_ + chunkHeaderSize := Nat.le_add_right_of_le behind
  simp only [same.read_eq field]

/-- Both files decode to the same container, but for the file that it was decoded from. -/
theorem decode_eq (same : SameBody left right) (reference : Option Bytes) :
    (Container.decode left reference).mapValue (fun container => { container with data := right }) =
      Container.decode right reference := by
  rw [Container.decode, Container.decode, same.length, Logged.mapValue_bind]
  refine congrArg _ (funext fun _ => ?_)
  rw [Logged.mapValue_bind]
  refine same.search_bind rfl fun at_ behind => ?_
  simp only [Logged.mapValue_bind, same.index_eq behind, same.checkReference_eq, same.readRelease_eq]
  rfl

end SameBody

namespace Container

open Layout (Piece)

/-- Files of one length that differ only in the form header decode alike. They are refused for the same
reason, or they have the same index, the same release number and the same reference, and a search or a
chunk behind the header gives the same in both. Wherever the header says that the form ends and whatever
it says that it holds, a chunk is found that no chunk with its tag stands before. -/
theorem decode_any_header {left right : Bytes} (sameLength : left.length = right.length)
    (sameBody : left.drop 12 = right.drop 12) :
    (∀ reference,
      (decode right reference).outcome =
        (decode left reference).outcome.map (fun container => { container with data := right }) ∧
      (decode right reference).notes = (decode left reference).notes) ∧
    (∀ tag, locate? left tag = locate? right tag) ∧
    (∀ offset, 12 ≤ offset → Chunk.read left offset = Chunk.read right offset) ∧
    ∀ (declared : UInt32) (type : Tag) (before : List Piece) (piece : Piece) (after : List Piece),
      (∀ part ∈ before ++ piece :: after, part.payload.length < 2 ^ 32) →
      12 + ((before ++ piece :: after).flatMap Piece.bytes).length < 2 ^ 64 →
      (∀ earlier ∈ before, earlier.tag ≠ piece.tag) →
      locate? (Packaging.formMark ++ Bytes.toBigEndian 4 declared.toNat ++ type.toBytes ++
          (before ++ piece :: after).flatMap Piece.bytes) piece.tag =
        some (12 + (before.flatMap Piece.bytes).length) := by
  have same : SameBody left right := ⟨sameLength, sameBody⟩
  refine ⟨fun reference => ?_, same.locate?_eq, fun _ => same.chunk_eq, ?_⟩
  · rw [← same.decode_eq reference]
    exact ⟨rfl, rfl⟩
  · intro declared type before piece after written reached unseen
    have width : (Packaging.formMark ++ Bytes.toBigEndian 4 declared.toNat ++ type.toBytes).length =
        firstChunk := by
      simp only [List.length_append, Bytes.length_toBigEndian, Tag.length_toBytes]
      rfl
    have total : (Packaging.formMark ++ Bytes.toBigEndian 4 declared.toNat ++ type.toBytes ++
        (before ++ piece :: after).flatMap Piece.bytes).length < addressLimit := by
      rw [List.length_append, width]
      exact reached
    exact Layout.locate?_piece ⟨width, written, total⟩ unseen

/-- The chunks of a container whose index sends a reader to the very front of the file. -/
def strayPieces : List Piece :=
  [⟨Tag.resourceIndex, [0, 0, 0, 1] ++ Tag.executable.toBytes ++ [0, 0, 0, 0, 0, 0, 0, 0]⟩,
    ⟨Tag.releaseNumber, [0, 7]⟩]

/-- A form header of other bytes changes nothing, though the index leads into it. A form that is said
to end with its type still has a release number. -/
theorem decode_any_header_sample :
    (fileOf strayPieces).length = (List.replicate 12 0xFF ++ (fileOf strayPieces).drop 12).length ∧
      (fileOf strayPieces).drop 12 = (List.replicate 12 0xFF ++ (fileOf strayPieces).drop 12).drop 12 ∧
      (decode (List.replicate 12 0xFF ++ (fileOf strayPieces).drop 12) none).outcome =
        .ok ⟨List.replicate 12 0xFF ++ (fileOf strayPieces).drop 12, [⟨Tag.executable, 0, 0⟩], 7, none⟩ ∧
      locate? (Packaging.formMark ++ [0, 0, 0, 4] ++ Packaging.resourceMark ++
        strayPieces.flatMap Piece.bytes) Tag.releaseNumber = some 36 := by
  have sameLength : (fileOf strayPieces).length =
      (List.replicate 12 0xFF ++ (fileOf strayPieces).drop 12).length := by decide +kernel
  have sameBody : (fileOf strayPieces).drop 12 =
      (List.replicate 12 0xFF ++ (fileOf strayPieces).drop 12).drop 12 := by decide +kernel
  obtain ⟨decoded, _, _, found⟩ := decode_any_header sameLength sameBody
  refine ⟨sameLength, sameBody, (decoded none).1.trans (by decide +kernel), ?_⟩
  exact found 4 ⟨0x49, 0x46, 0x52, 0x53⟩ (strayPieces.take 1) ⟨Tag.releaseNumber, [0, 7]⟩ []
    (by decide) (by decide) (by decide)

end Container
end StoryBundle
