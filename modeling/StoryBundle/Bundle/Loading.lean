import StoryBundle.Search
import StoryBundle.Settings.File
import StoryBundle.Bundle.Error
import StoryBundle.Story.Basic

/-!
# Loading files

Programs, resources and settings files are looked for by name, read and decoded. Each failure
names the file that it concerns.
-/

namespace StoryBundle

/-- The bytes of a program or a resource. -/
def FileSystem.load (files : FileSystem) (path : Path) : Except BundleError Bytes :=
  (files.read path).mapError (BundleError.unreadable path)

namespace Story

/-- The story of the first program file with a name. -/
def load (files : FileSystem) (dirs : SearchDirs) (name : String) :
    Logged BundleError LoadedStory := do
  let path ← (Search.find files dirs.programs name).mapError (.noProgram name)
  .note .info .story s!"Located program: {path.shown}"
  let data ← .quiet (files.load path)
  (ofBytes path data).mapError (.badProgram path)

end Story

namespace Container

/-- The container in the first resource file with a name. -/
def load (files : FileSystem) (dirs : SearchDirs) (name : String) (reference : Option Bytes) :
    Logged BundleError Container := do
  let path ← (Search.find files dirs.programs name).mapError (.noResource name)
  .note .info .bundle s!"Located resource: {path.shown}"
  let data ← .quiet (files.load path)
  (decode data reference).mapError (.badResource path)

end Container

namespace SettingsFile

/-- The settings file at a path. -/
def load (files : FileSystem) (path : Path) : Logged BundleError SettingsFile := do
  let bytes ← .quiet ((files.read path).mapError (.settingsUnreadable path))
  .note .info .settings s!"Reading configuration from {path.shown}"
  pure (ofBytes path bytes)

def absentNote (dirs : List Path) : Note :=
  ⟨.warn, .settings,
    s!"Unable to locate a {standardName} config file.\n\nChecked in:\n\t{Path.listText dirs}"⟩

/-- The settings file in the search directories, or the empty one if none is there. -/
def find (files : FileSystem) (dirs : SearchDirs) : Logged BundleError SettingsFile :=
  let found := Search.find files dirs.settings standardName
  match found.outcome with
  | .ok path => do
    .tell found.notes
    load files path
  | .error checked => do
    .tell found.notes
    .tell [absentNote checked]
    pure empty

end SettingsFile
end StoryBundle
