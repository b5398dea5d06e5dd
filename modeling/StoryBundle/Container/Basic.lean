import StoryBundle.Container.Chunk
import StoryBundle.Container.Index
import StoryBundle.Story.Header

/-!
# Resource containers

A container is decoded from the whole of its bytes: its index must be there, its identity must
agree with the story that it is paired with, and its release number is zero unless it states one.
-/

namespace StoryBundle

structure Container where
  data : Bytes
  index : Index
  release : UInt16
  /-- The story that the container was checked against. -/
  reference : Option Bytes
deriving DecidableEq, Repr

/-- The release, serial and checksum of the story that a container was made for. -/
structure Identity where
  release : UInt16
  serial : Bytes
  checksum : UInt16
deriving DecidableEq, Repr

namespace Identity

/-- The fields of the identity chunk that starts at `at_`. -/
def read (data : Bytes) (at_ : Nat) : Except DecodeError Identity := do
  let fields ← Region.identityFields.read data (at_ + chunkHeaderSize) 10
  pure ⟨Bytes.word16 (fields.take 2), (fields.drop 2).take 6, Bytes.word16 (fields.drop 8)⟩

/-- Every field in which an identity and a header differ, in the order of the fields. -/
def mismatches (identity : Identity) (header : Header) : List Mismatch :=
  (if identity.release = header.release then []
    else [.release identity.release header.release]) ++
  (if identity.serial = header.serial then [] else [.serial identity.serial header.serial]) ++
  (if identity.checksum = header.checksum then []
    else [.checksum identity.checksum header.checksum])

/-- Compares the identity at `at_` with the header of a story. -/
def compare (data : Bytes) (at_ : Nat) (story : Bytes) : Except DecodeError Unit := do
  let identity ← read data at_
  let header ← Header.read story
  match identity.mismatches header with
  | [] => .ok ()
  | differing => .error (.identityMismatch differing)

/-- A container that states no identity goes with any story. -/
def check (data story : Bytes) : Logged DecodeError Unit := do
  match ← search data Tag.storyIdentity with
  | none => .note .debug .container "\tno IFhd chunk, skipping identity check"
  | some at_ => .quiet (compare data at_ story)

end Identity

namespace Container

/-- The release number that a container states, or zero. -/
def readRelease (data : Bytes) : Logged DecodeError UInt16 := do
  match ← search data Tag.releaseNumber with
  | none => pure 0
  | some at_ =>
    let field ← .quiet (Region.releaseNumber.read data (at_ + chunkHeaderSize) 2)
    pure (Bytes.word16 field)

/-- Checks a container against the story that it is paired with, if there is one. -/
def checkReference (data : Bytes) : Option Bytes → Logged DecodeError Unit
  | none => pure ()
  | some story => Identity.check data story

/-- Decodes a container. An empty reference counts as none. -/
def decode (data : Bytes) (reference : Option Bytes) : Logged DecodeError Container := do
  .note .debug .container s!"decoding blorb ({data.length} bytes)"
  match ← search data Tag.resourceIndex with
  | none => .fail .missingIndex
  | some at_ =>
    let index ← Index.read data at_
    let reference := reference.filter fun story => !story.isEmpty
    checkReference data reference
    let release ← readRelease data
    .note .debug .container s!"\tRelease number: {release.toNat}"
    pure ⟨data, index, release, reference⟩

/-- Where an indexed resource starts. -/
def start? (container : Container) (usage : Tag) (number : UInt32) : Option Nat :=
  container.index.start? usage number

/-- The chunk of an indexed resource. -/
def resource? (container : Container) (usage : Tag) (number : UInt32) :
    Option (Except DecodeError Chunk) :=
  (container.start? usage number).map (Chunk.read container.data)

/-- The story stored as the program with a number. -/
def executable (container : Container) (number : UInt32) : Logged DecodeError Bytes :=
  match container.start? Tag.executable number with
  | none => .fail (.missingExecutable number)
  | some start => do
    let chunk ← .quiet (Chunk.read container.data start)
    if chunk.tag = Tag.zcode then
      .note .debug .container
        s!"\tExec chunk {number.toNat}: {chunk.payload.length} bytes at {start}"
      pure chunk.payload
    else .fail (.foreignExecutable chunk.tag)

end Container
end StoryBundle
