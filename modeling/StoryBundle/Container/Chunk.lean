import StoryBundle.Container.Chain

/-!
# Chunks

A chunk read in place: where it starts, its tag and its payload without the byte that pads it.
-/

namespace StoryBundle

structure Chunk where
  offset : Nat
  tag : Tag
  payload : Bytes
deriving DecidableEq, Repr

/-- Any offset may be asked for. The header and then the payload must be there in full. -/
def Chunk.read (data : Bytes) (offset : Nat) : Except DecodeError Chunk := do
  let header ← Region.chunkHeader.read data offset chunkHeaderSize
  let length := Bytes.bigEndian (header.drop 4)
  let payload ← Region.chunkPayload.read data (offset + chunkHeaderSize) length
  pure ⟨offset, Tag.ofBytes header, payload⟩

end StoryBundle
