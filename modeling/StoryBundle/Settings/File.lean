import StoryBundle.Logged
import StoryBundle.Path
import StoryBundle.Settings.Section
import StoryBundle.Text.Utf8

/-!
# Settings files

The first section of a settings file holds defaults. Each other section lists the titles that it
is for, and the first one for a title overrides the defaults.
-/

namespace StoryBundle

structure SettingsFile where
  /-- Where the file was read from. -/
  path? : Option Path
  defaultsSection : String
  titleSections : List String
deriving DecidableEq, Repr

namespace SettingsFile

/-- The name under which a settings file is looked for. -/
def standardName : String := ".quendor"

def sections (file : SettingsFile) : List String := file.defaultsSection :: file.titleSections

def parse (text : String) : SettingsFile :=
  match Section.split text.toList with
  | [] => ⟨none, "", []⟩
  | defaults :: titles => ⟨none, String.ofList defaults, titles.map String.ofList⟩

/-- The file of which no text is known. -/
def empty : SettingsFile := parse ""

/-- The file that was read from a path. Damaged text is read as far as it goes. -/
def ofBytes (path : Path) (bytes : Bytes) : SettingsFile :=
  { parse (String.ofList (Text.Utf8.decode bytes)) with path? := some path }

/-- The first section for a title. -/
def sectionFor? (file : SettingsFile) (title : TitleId) : Option String :=
  file.titleSections.find? fun content => Section.lists content.toList title

def defaults (file : SettingsFile) : Settings := .ofSection file.defaultsSection

/-- What a title's own section sets, and the defaults for the rest. -/
def settingsFor (file : SettingsFile) (title : TitleId) : Settings :=
  match file.sectionFor? title with
  | some content => (Settings.ofSection content).filledFrom file.defaults
  | none => Settings.none.filledFrom file.defaults

def resolveNote (file : SettingsFile) (title : TitleId) : Note :=
  ⟨.debug, .settings,
    match file.sectionFor? title with
    | some _ => s!"Configuration section found for {title.text}"
    | none => s!"No configuration section for {title.text}, using defaults"⟩

/-- `settingsFor` with its choice put on record. -/
def resolve {ε : Type} (file : SettingsFile) (title : TitleId) : Logged ε Settings :=
  ⟨.ok (file.settingsFor title), [file.resolveNote title]⟩

@[simp] theorem outcome_resolve {ε : Type} (file : SettingsFile) (title : TitleId) :
    (file.resolve title : Logged ε Settings).outcome = .ok (file.settingsFor title) := rfl

end SettingsFile
end StoryBundle
