import StoryBundle.Bytes
import StoryBundle.Path

/-!
# File systems

All that a program asks of a file system: whether a path is a regular file, what a file holds, and
what a walk through a directory comes by.
-/

namespace StoryBundle

/-- Why a file cannot be read. -/
inductive AccessError where
  | notFound
  | inputOutput
  | permissionDenied
  | notADirectory
  | isADirectory
  | nameTooLong
  | nulInName
  | other (code : Nat) (text : String)
deriving DecidableEq, Repr

namespace AccessError

def coded (text : String) (code : Nat) : String := s!"{text} (os error {code})"

def message : AccessError → String
  | notFound => coded "No such file or directory" 2
  | inputOutput => coded "Input/output error" 5
  | permissionDenied => coded "Permission denied" 13
  | notADirectory => coded "Not a directory" 20
  | isADirectory => coded "Is a directory" 21
  | nameTooLong => coded "File name too long" 36
  | nulInName => "file name contained an unexpected NUL byte"
  | other code text => coded text code

end AccessError

/-- What an entry of a directory is in itself. A link is neither a file nor a directory. -/
inductive EntryKind where
  | file
  | directory
  | other
deriving DecidableEq, Repr

/-- An entry that a walk comes by, with the path where the walk starts joined with the names that
lead to the entry. -/
structure Visit where
  path : Path
  kind : EntryKind
deriving DecidableEq, Repr

structure FileSystem where
  isFile : Path → Bool
  read : Path → Except AccessError Bytes
  /-- What a walk comes by at a path and below it, each entry once and links not followed. What
  cannot be looked at or entered gives an error. -/
  walk : Path → List (Except AccessError Visit)

end StoryBundle
