import StoryBundle.DecodeError
import StoryBundle.Logged

/-!
# The chain of chunks

After a header of twelve bytes a container is a run of chunks, each a tag, a length, a payload and
one more byte if the length is odd. The chain lists where chunks start by following the lengths
from one chunk to the next, whether or not the payloads are all there.
-/

namespace StoryBundle

/-- Where the header of a container ends and its first chunk starts. -/
def firstChunk : Nat := 12

/-- The tag and the length in front of each payload. -/
def chunkHeaderSize : Nat := 8

/-- The number of addresses that a machine word can hold. -/
def addressLimit : Nat := UInt64.size

/-- An address moved on by a distance, if there is such an address. -/
def advance? (address distance : Nat) : Option Nat :=
  if address + distance < addressLimit then some (address + distance) else none

/-- Where the chunk after one at `offset` starts: past its header, its payload and its padding. -/
def nextStart? (offset length : Nat) : Option Nat := do
  let payload ← advance? offset chunkHeaderSize
  let padding ← advance? payload length
  advance? padding (length % 2)

/-- The start of a chunk. The length is absent if the bytes end before it is complete. -/
structure Start where
  offset : Nat
  tag : Tag
  length? : Option Nat
deriving DecidableEq, Repr

/-- The starts in `rest`, which lies at `position`. The last one may be a tag that stands alone. -/
def startsFrom (position : Nat) (rest : Bytes) : List Start :=
  match rest with
  | a :: b :: c :: d :: l₀ :: l₁ :: l₂ :: l₃ :: more =>
    let length := Bytes.bigEndian [l₀, l₁, l₂, l₃]
    ⟨position, ⟨a, b, c, d⟩, some length⟩ ::
      match nextStart? position length with
      | some next => startsFrom next (more.drop (length + length % 2))
      | none => []
  | a :: b :: c :: d :: _ => [⟨position, ⟨a, b, c, d⟩, none⟩]
  | _ => []
termination_by rest.length
decreasing_by
  simp only [List.length_drop, List.length_cons]
  omega

/-- Every chunk start of a container. -/
def chain (data : Bytes) : List Start := startsFrom firstChunk (data.drop firstChunk)

/-- Where the first chunk with a tag starts. -/
def locate? (data : Bytes) (tag : Tag) : Option Nat :=
  ((chain data).find? (·.tag == tag)).map Start.offset

/-- What a search reports of a chunk that it passes over. -/
def Start.passedNotes (start : Start) : List Note :=
  match start.length? with
  | some length =>
    [⟨.debug, .container, s!"\tChunk {start.tag.quoted} at {start.offset}, length {length}"⟩]
  | none => []

def searchNotes (data : Bytes) (tag : Tag) : List Note :=
  ⟨.debug, .container, s!"\tSearching for chunk name: {tag.quoted}"⟩ ::
    (((chain data).takeWhile (·.tag != tag)).flatMap Start.passedNotes ++
      match locate? data tag with
      | some offset => [⟨.debug, .container, s!"\tFound chunk {tag.quoted} at {offset}"⟩]
      | none => [])

/-- `locate?` with its search put on record. -/
def search {ε : Type} (data : Bytes) (tag : Tag) : Logged ε (Option Nat) :=
  ⟨.ok (locate? data tag), searchNotes data tag⟩

@[simp] theorem outcome_search {ε : Type} (data : Bytes) (tag : Tag) :
    (search data tag : Logged ε (Option Nat)).outcome = .ok (locate? data tag) := rfl

end StoryBundle
