import StoryBundle.DecodeError
import StoryBundle.FileSystem.Basic

/-!
# Why there is no bundle

Each constructor is one cause with what it concerns, and `BundleError.message` is its wording.
-/

namespace StoryBundle

inductive BundleError where
  | noProgram (name : String) (checked : List Path)
  | noResource (name : String) (checked : List Path)
  /-- A program or a resource that is there but cannot be read. -/
  | unreadable (path : Path) (cause : AccessError)
  | settingsUnreadable (path : Path) (cause : AccessError)
  | badProgram (path : Path) (cause : DecodeError)
  | badResource (path : Path) (cause : DecodeError)
deriving DecidableEq, Repr

/-- Directories on a line each, as lists of searched places show them. -/
def Path.listText (paths : List Path) : String := "\n\t".intercalate (paths.map Path.shown)

namespace BundleError

def message : BundleError → String
  | noProgram name checked =>
    s!"unable to locate the program: {name}\n\nChecked in:\n\t{Path.listText checked}"
  | noResource name checked =>
    s!"unable to locate the resource: {name}\n\nChecked in:\n\t{Path.listText checked}"
  | unreadable path cause => s!"unable to access {path.shown}: {cause.message}"
  | settingsUnreadable path cause =>
    s!"unable to read configuration file {path.shown}: {cause.message}"
  | badProgram path cause => s!"invalid program {path.shown}: {cause.message}"
  | badResource path cause => s!"invalid resource {path.shown}: {cause.message}"

/-- The error of decoding underneath, if that is what it is. -/
def decodeError? : BundleError → Option DecodeError
  | badProgram _ cause => some cause
  | badResource _ cause => some cause
  | _ => none

/-- The wording of the error underneath, if there is one. -/
def causeMessage? : BundleError → Option String
  | noProgram .. => none
  | noResource .. => none
  | unreadable _ cause => some cause.message
  | settingsUnreadable _ cause => some cause.message
  | badProgram _ cause => some cause.message
  | badResource _ cause => some cause.message

end BundleError
end StoryBundle
