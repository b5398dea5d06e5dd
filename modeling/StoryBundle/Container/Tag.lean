import StoryBundle.Text.Latin1
import StoryBundle.Text.Quoted

/-!
# Chunk tags

Four bytes that name what a chunk holds or how a resource is used. A tag is shown as the Latin-1
text of its bytes.
-/

namespace StoryBundle

structure Tag where
  first : UInt8
  second : UInt8
  third : UInt8
  fourth : UInt8
deriving DecidableEq, Repr

namespace Tag

def toBytes (tag : Tag) : Bytes := [tag.first, tag.second, tag.third, tag.fourth]

/-- The first four bytes, with zeros where bytes are missing. -/
def ofBytes (bytes : Bytes) : Tag :=
  ⟨bytes.getD 0 0, bytes.getD 1 0, bytes.getD 2 0, bytes.getD 3 0⟩

def text (tag : Tag) : String := Text.latin1 tag.toBytes

/-- The tag between quotes, as messages show it. -/
def quoted (tag : Tag) : String := Text.quoted tag.text

/-- `RIdx`: the index of resources. -/
def resourceIndex : Tag := ⟨0x52, 0x49, 0x64, 0x78⟩
/-- `IFhd`: the release, serial and checksum of the story that a container belongs to. -/
def storyIdentity : Tag := ⟨0x49, 0x46, 0x68, 0x64⟩
/-- `RelN`: the release number of the container itself. -/
def releaseNumber : Tag := ⟨0x52, 0x65, 0x6C, 0x4E⟩
/-- `Exec`: the use of a resource as a program. -/
def executable : Tag := ⟨0x45, 0x78, 0x65, 0x63⟩
/-- `ZCOD`: a Z-machine story. -/
def zcode : Tag := ⟨0x5A, 0x43, 0x4F, 0x44⟩

@[simp] theorem length_toBytes (tag : Tag) : tag.toBytes.length = 4 := rfl

@[simp] theorem ofBytes_toBytes (tag : Tag) : ofBytes tag.toBytes = tag := rfl

theorem toBytes_injective {left right : Tag} (same : left.toBytes = right.toBytes) :
    left = right := by
  simpa using congrArg ofBytes same

/-- Four bytes are those of a tag. -/
theorem exists_toBytes_eq {bytes : Bytes} (width : bytes.length = 4) :
    ∃ tag : Tag, tag.toBytes = bytes := by
  match bytes, width with
  | [first, second, third, fourth], _ => exact ⟨⟨first, second, third, fourth⟩, rfl⟩

end Tag
end StoryBundle
