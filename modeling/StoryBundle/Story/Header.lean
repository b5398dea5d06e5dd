import StoryBundle.DecodeError

/-!
# Story headers

The fields at the front of a Z-machine story that tell one build of a title from another, and the
text by which a title is looked up.
-/

namespace StoryBundle

/-- The text by which a title is looked up: its release number, a dot and its serial. -/
structure TitleId where
  text : String
deriving DecidableEq, Repr

def TitleId.of (release : UInt16) (serial : Bytes) : TitleId :=
  ⟨s!"{release.toNat}.{Text.latin1 serial}"⟩

structure Header where
  version : UInt8
  release : UInt16
  serial : Bytes
  checksum : UInt16
deriving DecidableEq, Repr

namespace Header

/-- The fields are read in this order, so the first one that is cut off is the one reported. -/
def read (story : Bytes) : Except DecodeError Header := do
  let version ← Region.headerVersion.read story 0x00 1
  let release ← Region.headerRelease.read story 0x02 2
  let serial ← Region.headerSerial.read story 0x12 6
  let checksum ← Region.headerChecksum.read story 0x1C 2
  pure ⟨Bytes.word8 version, Bytes.word16 release, serial, Bytes.word16 checksum⟩

def serialText (header : Header) : String := Text.latin1 header.serial

def title (header : Header) : TitleId := .of header.release header.serial

end Header

/-- The title that a story's header names. -/
def TitleId.read (story : Bytes) : Except DecodeError TitleId :=
  (Header.read story).map Header.title

end StoryBundle
