import StoryBundle.Container.Tag

/-!
# Why bytes cannot be decoded

Each constructor is one cause, and `DecodeError.message` is its wording.
-/

namespace StoryBundle

/-- The part of a file that a decoder was reading. -/
inductive Region where
  | headerVersion
  | headerRelease
  | headerSerial
  | headerChecksum
  | resourceCount
  | resourceEntries
  | identityFields
  | releaseNumber
  | chunkHeader
  | chunkPayload
deriving DecidableEq, Repr

def Region.label : Region → String
  | headerVersion => "header version"
  | headerRelease => "header release"
  | headerSerial => "header serial"
  | headerChecksum => "header checksum"
  | resourceCount => "RIdx resource count"
  | resourceEntries => "RIdx entries"
  | identityFields => "IFhd fields"
  | releaseNumber => "RelN release number"
  | chunkHeader => "chunk header"
  | chunkPayload => "chunk payload"

/-- A field in which a container's identity and its story's header differ, with both values. -/
inductive Mismatch where
  | release (container story : UInt16)
  | serial (container story : Bytes)
  | checksum (container story : UInt16)
deriving DecidableEq, Repr

namespace Mismatch

def field : Mismatch → String
  | release .. => "release"
  | serial .. => "serial"
  | checksum .. => "checksum"

/-- A checksum as messages show it. -/
def checksumText (checksum : UInt16) : String := "0x" ++ Text.lowerHex 4 checksum.toNat

/-- What the container says. -/
def containerText : Mismatch → String
  | release container _ => toString container.toNat
  | serial container _ => Text.latin1 container
  | checksum container _ => checksumText container

/-- What the story says. -/
def storyText : Mismatch → String
  | release _ story => toString story.toNat
  | serial _ story => Text.latin1 story
  | checksum _ story => checksumText story

def message (mismatch : Mismatch) : String :=
  s!"{mismatch.field} (blorb: {mismatch.containerText}, program: {mismatch.storyText})"

end Mismatch

inductive DecodeError where
  /-- A program for the Glulx machine. -/
  | glulxProgram
  /-- An IFF file of another type. -/
  | foreignContainer (found : Tag)
  /-- A file that starts neither like a container nor with a Z-machine version. -/
  | unknownShape (found : Bytes)
  /-- A container without a resource index. -/
  | missingIndex
  /-- A container without the program that was asked for. -/
  | missingExecutable (number : UInt32)
  /-- A program resource that is not a Z-machine story. -/
  | foreignExecutable (found : Tag)
  /-- A container made for another story. -/
  | identityMismatch (mismatches : List Mismatch)
  /-- A region that reaches past the end of the bytes at hand. -/
  | truncated (region : Region) (offset needed available : Nat)
deriving DecidableEq, Repr

namespace DecodeError

/-- Two small hexadecimal digits for each byte, between square brackets. -/
def byteListText (bytes : Bytes) : String :=
  "[" ++ ", ".intercalate (bytes.map fun byte => Text.lowerHex 2 byte.toNat) ++ "]"

def message : DecodeError → String
  | glulxProgram => "cannot interpret Glulx programs"
  | foreignContainer found =>
    s!"IFF container type is {found.quoted}, only IFRS resources are supported"
  | unknownShape found =>
    s!"unable to determine program format from leading bytes {byteListText found}"
  | missingIndex => "no RIdx chunk found in the blorb"
  | missingExecutable number => s!"blorb has no Exec resource numbered {number.toNat}"
  | foreignExecutable found =>
    s!"unsupported Exec chunk type {found.quoted}, only ZCOD is supported"
  | identityMismatch mismatches =>
    "IFhd does not match the program: " ++ "; ".intercalate (mismatches.map Mismatch.message)
  | truncated region offset needed available =>
    s!"{region.label} at offset {offset} needs {needed} bytes but the buffer holds {available}"

/-- The fields named by a mismatch of identities, and none for any other cause. -/
def mismatchedFields : DecodeError → List String
  | identityMismatch mismatches => mismatches.map Mismatch.field
  | _ => []

end DecodeError

/-- The bytes of a region, or the report that they are not all there. -/
def Region.read (region : Region) (data : Bytes) (offset needed : Nat) :
    Except DecodeError Bytes :=
  match data.slice? offset needed with
  | some piece => .ok piece
  | none => .error (.truncated region offset needed data.length)

theorem Region.read_eq_ok_iff {region : Region} {data piece : Bytes} {offset needed : Nat} :
    region.read data offset needed = .ok piece ↔
      Bytes.slice? data offset needed = some piece := by
  unfold Region.read
  split <;> simp_all

theorem Region.length_of_read {region : Region} {data piece : Bytes} {offset needed : Nat}
    (present : region.read data offset needed = .ok piece) : piece.length = needed :=
  Bytes.length_of_slice? (Region.read_eq_ok_iff.mp present)

/-- A report of truncation is always true. -/
theorem Region.read_eq_error_iff {region : Region} {data : Bytes} {offset needed : Nat}
    {cause : DecodeError} :
    region.read data offset needed = .error cause ↔
      data.length < offset + needed ∧ .truncated region offset needed data.length = cause := by
  unfold Region.read
  split
  · rename_i piece present
    simp only [reduceCtorEq, false_iff, not_and]
    intro short
    rw [Bytes.slice?_eq_some_iff] at present
    omega
  · rename_i absent
    simp [Bytes.slice?_eq_none_iff.mp absent]

end StoryBundle
