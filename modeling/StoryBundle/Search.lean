import StoryBundle.FileSystem.Basic
import StoryBundle.Logged

/-!
# Search directories

A name is looked for in a list of directories, and the first one in which it is a regular file
gives its path. A failed search reports every directory in the list.
-/

namespace StoryBundle

structure SearchDirs where
  /-- For programs and resources. -/
  programs : List Path
  /-- For the settings file. -/
  settings : List Path
deriving DecidableEq, Repr

/-- The variables of a program's environment. -/
abbrev Environment := String → Option Bytes

namespace SearchDirs

/-- The directory for stories below the working and the home directory. -/
def storyDirectory : String := "zcode"

/-- The standard directories. Those that are not given are left out. -/
def standard (working : Path) (home? stories? shared? : Option Path) : SearchDirs where
  programs := [working, working.join storyDirectory] ++
    (home?.map fun home => home.join storyDirectory).toList ++ stories?.toList ++ shared?.toList
  settings := [working] ++ home?.toList ++ shared?.toList

/-- The directory that a variable names. An empty variable names none. -/
def directoryOf? (environment : Environment) (name : String) : Option Path :=
  ((environment name).filter (· != [])).map Path.mk

/-- The standard directories of an environment. -/
def ofEnvironment (environment : Environment) (working : Path) : SearchDirs :=
  standard working (directoryOf? environment "HOME") (directoryOf? environment "ZCODE_PATH")
    (directoryOf? environment "QUENDOR_PATH")

end SearchDirs

namespace Search

/-- Where a name could be, in order. -/
def candidates (dirs : List Path) (name : String) : List Path := dirs.map (·.join name)

/-- The candidates that are looked at: all up to the first regular file. -/
def probed (files : FileSystem) : List Path → List Path
  | [] => []
  | candidate :: rest =>
    if files.isFile candidate then [candidate] else candidate :: probed files rest

/-- The first candidate that is a regular file. -/
def first? (files : FileSystem) (dirs : List Path) (name : String) : Option Path :=
  (candidates dirs name).find? files.isFile

/-- The path of a name, or the directories that were searched in vain. -/
def find (files : FileSystem) (dirs : List Path) (name : String) : Logged (List Path) Path where
  outcome :=
    match first? files dirs name with
    | some path => .ok path
    | none => .error dirs
  notes := (probed files (candidates dirs name)).map fun candidate =>
    ⟨.debug, .search, s!"Checking: {candidate.shown}"⟩

end Search
end StoryBundle
