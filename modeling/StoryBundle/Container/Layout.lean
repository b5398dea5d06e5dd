import StoryBundle.Container.Basic
import StoryBundle.Story.Packaging

/-!
# Laying out containers

The file of a list of resources and further chunks: the form header, an index with one row for
each resource, the chunks of the resources and then the others. It is the inverse of decoding.
-/

namespace StoryBundle.Layout

/-- A payload under its tag. -/
structure Piece where
  tag : Tag
  payload : Bytes
deriving DecidableEq, Repr

/-- A piece that the index lists under a usage and a number. -/
structure Resource where
  usage : Tag
  number : UInt32
  piece : Piece
deriving DecidableEq, Repr

/-- The tag, the length, the payload, and a zero byte after an odd length. -/
def Piece.bytes (piece : Piece) : Bytes :=
  piece.tag.toBytes ++ Bytes.toBigEndian 4 piece.payload.length ++ piece.payload ++
    List.replicate (piece.payload.length % 2) 0

def entryBytes (usage : Tag) (number : UInt32) (start : Nat) : Bytes :=
  usage.toBytes ++ Bytes.toBigEndian 4 number.toNat ++ Bytes.toBigEndian 4 start

/-- The rows of the index, when the first of the resources starts at `start`. -/
def rows : Nat → List Resource → Bytes
  | _, [] => []
  | start, resource :: rest =>
    entryBytes resource.usage resource.number start ++
      rows (start + resource.piece.bytes.length) rest

/-- Where the first resource starts: after the form header and the index. -/
def firstResource (resources : List Resource) : Nat :=
  firstChunk + chunkHeaderSize + 4 + Entry.size * resources.length

def index (resources : List Resource) : Piece :=
  ⟨Tag.resourceIndex,
    Bytes.toBigEndian 4 resources.length ++ rows (firstResource resources) resources⟩

/-- Everything after the form header. -/
def body (resources : List Resource) (extras : List Piece) : Bytes :=
  (index resources).bytes ++ resources.flatMap (·.piece.bytes) ++ extras.flatMap Piece.bytes

/-- The whole file. -/
def file (resources : List Resource) (extras : List Piece) : Bytes :=
  Packaging.formMark ++ Bytes.toBigEndian 4 (4 + (body resources extras).length) ++
    Packaging.resourceMark ++ body resources extras

end StoryBundle.Layout
