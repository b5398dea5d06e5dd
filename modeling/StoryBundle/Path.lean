import StoryBundle.Repeats
import StoryBundle.Text.Pieces
import StoryBundle.Text.Utf8

/-!
# Paths

A path is a byte string that nothing normalises, and it need not be text. Two paths are compared by
their components, so that repeated slashes, inner dots and a slash at the end make no difference.
-/

namespace StoryBundle

@[ext]
structure Path where
  bytes : Bytes
deriving DecidableEq, Repr

/-- A step of a path. -/
inductive Component where
  | root
  | here
  | up
  | name (bytes : Bytes)
deriving DecidableEq, Repr

namespace Component

/-- The root comes first and names come last. -/
def rank : Component → Nat
  | root => 0
  | here => 1
  | up => 2
  | name _ => 3

def nameBytes : Component → Bytes
  | name bytes => bytes
  | _ => []

/-- By rank, and names among themselves by their bytes. -/
def order (left right : Component) : Ordering :=
  (compare left.rank right.rank).then (compare left.nameBytes right.nameBytes)

/-- The byte of a dot. -/
def dot : UInt8 := 0x2E

/-- The step that a segment between slashes stands for, if it is one. -/
def ofSegment (segment : Bytes) : Option Component :=
  if segment = [] then none
  else if segment = [dot] then none
  else if segment = [dot, dot] then some up
  else some (name segment)

end Component

namespace Path

open Component (dot)

/-- The path that a text spells. -/
def ofText (text : String) : Path := ⟨Text.Utf8.encode text⟩

instance : Coe String Path := ⟨ofText⟩

/-- The text of a path, if it is text. -/
def text? (path : Path) : Option String := Text.Utf8.text? path.bytes

/-- A path as it is shown to a reader, whether it is text or not. -/
def shown (path : Path) : String := String.ofList (Text.Utf8.decode path.bytes)

/-- The byte of a slash. -/
def slash : UInt8 := 0x2F

def isAbsolute (path : Path) : Bool := path.bytes.head? == some slash

/-- What stands between slashes, of which some may be empty. -/
def segments (path : Path) : List Bytes := Text.pieces (· == slash) path.bytes

/-- The steps of a path. A dot counts only where a path starts with it. -/
def components (path : Path) : List Component :=
  let steps := path.segments.filterMap Component.ofSegment
  if path.isAbsolute then .root :: steps
  else if path.segments.head? = some [dot] then .here :: steps
  else steps

/-- A slash stands between the two sides unless the left one is empty or ends in one. An absolute
name stands for itself. -/
def join (dir name : Path) : Path :=
  if name.isAbsolute then name
  else match dir.bytes.getLast? with
    | none => name
    | some last =>
      if last = slash then ⟨dir.bytes ++ name.bytes⟩ else ⟨dir.bytes ++ slash :: name.bytes⟩

/-- What follows the last dot of a file's name, unless the name starts with its only dot. -/
def extension? (path : Path) : Option Bytes :=
  match path.components.getLast? with
  | some (.name bytes) =>
    let reversed := bytes.reverse
    let after := reversed.takeWhile (· != dot)
    let before := (reversed.dropWhile (· != dot)).drop 1
    if before.isEmpty then none else some after.reverse
  | _ => none

def order (left right : Path) : Ordering :=
  List.compareLex Component.order left.components right.components

/-- The paths in order. Of paths with the same components only the first one is kept. -/
def sorted (paths : List Path) : List Path :=
  (firstOfEach components paths).mergeSort fun left right => (order left right).isLE

end Path
end StoryBundle
