import StoryBundle.DecodeError

/-!
# How a program file is packaged

The first bytes of a file say whether it is a bare story or a container around one.
-/

namespace StoryBundle

inductive Packaging where
  | bare
  | wrapped
deriving DecidableEq, Repr

namespace Packaging

def label : Packaging → String
  | bare => "zcode"
  | wrapped => "blorb"

/-- `GLUL`, the start of a program for the Glulx machine. -/
def glulxMark : Bytes := [0x47, 0x4C, 0x55, 0x4C]
/-- `FORM`, the start of an IFF file. -/
def formMark : Bytes := [0x46, 0x4F, 0x52, 0x4D]
/-- `IFRS`, the IFF type of a resource container. -/
def resourceMark : Bytes := [0x49, 0x46, 0x52, 0x53]

/-- The versions of the Z-machine. -/
def isVersion (byte : UInt8) : Bool := 1 ≤ byte && byte ≤ 8

/-- A container needs both of its marks, in any case. A bare story starts with its version. -/
def detect (data : Bytes) : Except DecodeError Packaging :=
  let mark := data.take 4
  if Bytes.sameIgnoringCase mark glulxMark then .error .glulxProgram
  else if Bytes.sameIgnoringCase mark formMark then
    let type := (data.drop 8).take 4
    if Bytes.sameIgnoringCase type resourceMark then .ok wrapped
    else .error (.foreignContainer (Tag.ofBytes type))
  else if data.head?.any isVersion then .ok bare
  else .error (.unknownShape mark)

end Packaging
end StoryBundle
