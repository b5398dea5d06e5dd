import StoryBundle.Repeats
import StoryBundle.Bundle.Loading

/-!
# Bundles

A bundle is everything that a Z-machine needs before its first instruction: the story, the
resource containers and the settings of its title. `Bundle.gather` finds, checks and joins them.
-/

namespace StoryBundle

/-- What is asked for. -/
structure Request where
  program : String
  /-- A resource file to pair with the program. -/
  resource? : Option String
  /-- A settings file to use instead of the one in the search directories. -/
  settings? : Option Path
deriving DecidableEq, Repr

structure Bundle where
  story : Story
  containers : List Container
  settings : Settings
  title : TitleId
deriving DecidableEq, Repr

namespace Bundle

/-- What is reported of a container whose bytes an earlier one has. -/
def repeatNote (position : Nat) : Note :=
  ⟨.warn, .bundle,
    s!"Byte data match found between blorbs in the list. Removing duplicate at {position}."⟩

/-- Keeps the first of the items with the same bytes. The others are put on record, the last one
first. -/
def keepDistinct {ε α : Type} (bytes : α → Bytes) (items : List α) : Logged ε (List α) where
  outcome := .ok (firstOfEach bytes items)
  notes := (repeats bytes items).reverse.map fun (position, _) => repeatNote position

/-- The container that is supplied with the program, checked against the story. -/
def loadSupplied (files : FileSystem) (dirs : SearchDirs) (story : Story) :
    Option String → Logged BundleError (List Container)
  | none => pure []
  | some name => do
    let container ← Container.load files dirs name (some story.image)
    pure [container]

/-- The container that the settings name. -/
def loadConfigured (files : FileSystem) (dirs : SearchDirs) (settings : Settings) :
    Logged BundleError (List Container) :=
  if settings.blorb = "" then pure []
  else do
    let container ← Container.load files dirs settings.blorb none
    pure [container]

def loadSettings (files : FileSystem) (dirs : SearchDirs) :
    Option Path → Logged BundleError SettingsFile
  | some path => SettingsFile.load files path
  | none => SettingsFile.find files dirs

/-- The bundle before the container that its settings name. -/
def prepare (files : FileSystem) (dirs : SearchDirs) (request : Request) :
    Logged BundleError Bundle := do
  let loaded ← Story.load files dirs request.program
  let story := loaded.story
  let supplied ← loadSupplied files dirs story request.resource?
  let title ← .quiet (story.title.mapError (.badProgram story.path))
  let file ← loadSettings files dirs request.settings?
  let settings ← file.resolve title
  pure ⟨story, loaded.container?.toList ++ supplied, settings, title⟩

/-- The bundle that a request asks for. Containers with the same bytes are kept once. -/
def gather (files : FileSystem) (dirs : SearchDirs) (request : Request) :
    Logged BundleError Bundle := do
  let bundle ← prepare files dirs request
  let configured ← loadConfigured files dirs bundle.settings
  let containers ← keepDistinct Container.data (bundle.containers ++ configured)
  pure { bundle with containers }

/-- Every path that `prepare` may ask for. -/
def preparePaths (dirs : SearchDirs) (request : Request) : List Path :=
  Search.candidates dirs.programs request.program ++
    request.resource?.toList.flatMap (Search.candidates dirs.programs) ++
    match request.settings? with
    | some path => [path]
    | none => Search.candidates dirs.settings SettingsFile.standardName

/-- Every path that `loadConfigured` may ask for. -/
def configuredPaths (dirs : SearchDirs) (settings : Settings) : List Path :=
  Search.candidates dirs.programs settings.blorb

end Bundle
end StoryBundle
