import StoryBundle.Container.Basic
import StoryBundle.Path
import StoryBundle.Story.Packaging

/-!
# Stories

A story is the image that a Z-machine runs, taken out of its container if the program file was
one, with the path and the packaging of that file.
-/

namespace StoryBundle

structure Story where
  path : Path
  packaging : Packaging
  image : Bytes
deriving DecidableEq, Repr

/-- A story with the container that it came in. -/
structure LoadedStory where
  story : Story
  container? : Option Container
deriving DecidableEq, Repr

/-- What a report says of a story. -/
structure StoryDetails where
  path : Path
  packaging : Packaging
  size : Nat
  header : Header
deriving DecidableEq, Repr

namespace Story

def header (story : Story) : Except DecodeError Header := Header.read story.image

def title (story : Story) : Except DecodeError TitleId := TitleId.read story.image

def details (story : Story) : Except DecodeError StoryDetails :=
  story.header.map fun header => ⟨story.path, story.packaging, story.image.length, header⟩

/-- The number of the program that a container is run by. -/
def mainProgram : UInt32 := 0

/-- The story of a program file's bytes. -/
def ofBytes (path : Path) (data : Bytes) : Logged DecodeError LoadedStory := do
  let packaging ← .quiet (Packaging.detect data)
  .note .debug .story s!"{path.shown} classified as {packaging.label}"
  match packaging with
  | .bare => pure ⟨⟨path, packaging, data⟩, none⟩
  | .wrapped =>
    let container ← Container.decode data none
    let image ← container.executable mainProgram
    pure ⟨⟨path, packaging, image⟩, some container⟩

end Story
end StoryBundle
