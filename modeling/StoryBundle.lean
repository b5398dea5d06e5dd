import StoryBundle.Container.Layout
import StoryBundle.FileSystem.Tree
import StoryBundle.Main
import StoryBundle.Settings.Written
import StoryBundle.Proofs.Bytes
import StoryBundle.Proofs.Container.Chain
import StoryBundle.Proofs.Container.Index
import StoryBundle.Proofs.Container.Decoding
import StoryBundle.Proofs.Container.RoundTrip
import StoryBundle.Proofs.Container.Cut
import StoryBundle.Proofs.Repeats
import StoryBundle.Proofs.Removal
import StoryBundle.Proofs.Search
import StoryBundle.Proofs.Bundle.Loading
import StoryBundle.Proofs.Story.Header
import StoryBundle.Proofs.Bundle.Gathering
import StoryBundle.Proofs.Container.Identity
import StoryBundle.Proofs.Story.Basic
import StoryBundle.Proofs.Bundle.Verification
import StoryBundle.Proofs.Bundle.Wrapping
import StoryBundle.Proofs.Trapping.Basic
import StoryBundle.Proofs.Trapping.Story
import StoryBundle.Proofs.Container.Extent
import StoryBundle.Proofs.Bundle.Blame
import StoryBundle.Proofs.Text.Digits
import StoryBundle.Proofs.Text.Pieces
import StoryBundle.Proofs.Text.Utf8
import StoryBundle.Proofs.Settings.File
import StoryBundle.Proofs.Settings.Written
import StoryBundle.Proofs.Settings.Relaid
import StoryBundle.Proofs.Trapping.Container
import StoryBundle.Proofs.Trapping.Safety
import StoryBundle.Proofs.Settings.Division
import StoryBundle.Proofs.Settings.Extended
import StoryBundle.Proofs.Container.Search
import StoryBundle.Proofs.Container.Listing
import StoryBundle.Proofs.Container.Pairing
import StoryBundle.Proofs.Settings.Pattern
import StoryBundle.Proofs.Settings.Titles
import StoryBundle.Proofs.Story.Packaging
import StoryBundle.Proofs.Container.Executable
import StoryBundle.Proofs.Story.Shape
import StoryBundle.Proofs.Story.Title
import StoryBundle.Proofs.Container.FormHeader
import StoryBundle.Proofs.Precedence
import StoryBundle.Proofs.Text.Quoted
import StoryBundle.Proofs.Container.Stride
import StoryBundle.Proofs.Path
import StoryBundle.Proofs.CommandLine.Inspecting
import StoryBundle.Proofs.CommandLine.Launching
