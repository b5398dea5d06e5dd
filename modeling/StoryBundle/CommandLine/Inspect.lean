import StoryBundle.CommandLine.Outcome
import StoryBundle.Container.Basic
import StoryBundle.FileSystem.Basic
import StoryBundle.Text.Json

/-!
# Inspecting containers

The command that lists the resource index of each container it is given, or of each one below a
directory. Either all of them can be listed or nothing is.
-/

namespace StoryBundle.CommandLine

/-- What is listed of a container. -/
structure Listing where
  path : Path
  size : Nat
  release : UInt16
  entries : Index
deriving DecidableEq, Repr

namespace Listing

def of (path : Path) (container : Container) : Listing :=
  ⟨path, container.data.length, container.release, container.index⟩

/-- The listing of the container at a path. -/
def read (files : FileSystem) (path : Path) : Except Failure Listing :=
  match files.read path with
  | .error cause => .error ⟨s!"reading {path.shown}", some cause.message⟩
  | .ok data =>
    match (Container.decode data none).outcome with
    | .error cause => .error ⟨s!"decoding {path.shown}", some cause.message⟩
    | .ok container => .ok (of path container)

def entryLine (entry : Entry) : String :=
  s!"{Text.alignLeft 4 entry.usage.text} {Text.alignRight 6 (toString entry.number.toNat)} " ++
    s!"{Text.alignRight 10 (toString entry.start.toNat)}\n"

def text (listing : Listing) : String :=
  s!"{listing.entries.length} entries in {listing.path.shown} " ++
    s!"(release {listing.release.toNat}, {listing.size} bytes)\n" ++
    String.join (listing.entries.map entryLine)

def entryJson (entry : Entry) : Json :=
  .object [("usage", .text entry.usage.text), ("number", .number entry.number.toNat),
    ("start", .number entry.start.toNat)]

/-- The listing as JSON, or the wording of why it has no such form. -/
def json (listing : Listing) : Except String Json := do
  let path ← listing.path.json
  pure (.object [("path", path), ("size", .number listing.size),
    ("release", .number listing.release.toNat),
    ("resources", .array (listing.entries.map entryJson))])

end Listing

namespace Inspect

def about : Outcome.About where
  name := "quendor_formats"
  version := "0.1.0"
  summary := "List the resource index of Blorb containers"
  synopsis := "blorb_dump [OPTIONS] [FILE]..."

def grammar : Grammar where
  options := [⟨"root", none, .value .path⟩, ⟨"json", none, .flag⟩]
  wordLimit? := none
  wordKind := .path

/-- The containers to inspect: some files, or those below a directory. -/
inductive Subject where
  | files (paths : List Path)
  | below (root : Path)
deriving DecidableEq, Repr

structure Arguments where
  subject : Subject
  json : Bool
deriving DecidableEq, Repr

namespace Arguments

/-- Files and a directory cannot both be given. -/
def ofList (arguments : List Argument) : Except Stop Arguments :=
  let files := (arguments.filterMap Argument.word?).filterMap Value.path?
  let json := arguments.any (Argument.isOption "json")
  match (arguments.findSome? (Argument.valueOf? "root")).bind Value.path?, files with
  | none, _ => .ok ⟨.files files, json⟩
  | some root, [] => .ok ⟨.below root, json⟩
  | some _, _ :: _ => .error .rejected

def read (all : List Bytes) : Except Stop Arguments := do
  ofList (← grammar.read all)

end Arguments

/-- The extensions by which containers are known, in any case. -/
def extensions : List String := ["blb", "blorb", "zblorb"]

def hasContainerExtension (path : Path) : Bool :=
  (path.extension?.bind Text.Utf8.text?).any fun extension =>
    extensions.contains (extension.map Char.toLower)

/-- The path of a container that a walk has come by. Nothing comes of an error, nor of what is not a
regular file. -/
def containerOf? : Except AccessError Visit → Option Path
  | .ok visit =>
    if visit.kind = .file ∧ hasContainerExtension visit.path then some visit.path else none
  | .error _ => none

/-- The paths to inspect, in order and each of them once. -/
def paths (files : FileSystem) : Subject → List Path
  | .files given => Path.sorted given
  | .below root => Path.sorted ((files.walk root).filterMap containerOf?)

/-- The listings of all containers, or the failure of the first that has none. -/
def listings (files : FileSystem) (subject : Subject) : Except Failure (List Listing) :=
  match paths files subject with
  | [] => .error ⟨"no Blorb files to inspect", none⟩
  | found => found.mapM (Listing.read files)

/-- The failure of a listing that has no JSON form. -/
def unwritable (cause : String) : Failure := ⟨"serializing Blorb listing to JSON", some cause⟩

/-- All listings as one JSON document, if each of them has a JSON form. -/
def document (all : List Listing) : Except Failure Json :=
  ((all.mapM Listing.json).mapError unwritable).map Json.array

/-- What is printed of the listings. -/
def output (json : Bool) (all : List Listing) : Except Failure String :=
  if json then (document all).map fun document => document.render ++ "\n"
  else .ok (String.join (all.map Listing.text))

def runWith (files : FileSystem) (arguments : Arguments) : Outcome :=
  match listings files arguments.subject >>= output arguments.json with
  | .error failure => .failed failure ""
  | .ok printed => .success printed ""

def run (files : FileSystem) (all : List Bytes) : Outcome :=
  match Arguments.read all with
  | .error stop => .stopped about stop
  | .ok arguments => runWith files arguments

end Inspect
end StoryBundle.CommandLine
