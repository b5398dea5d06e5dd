import StoryBundle.CommandLine.Inspect
import StoryBundle.CommandLine.Launch
import StoryBundle.FileSystem.Snapshot

/-!
# The programs

The outer layer: it looks at the files that a run may ask for, runs on what it saw, and prints the
outcome. Called as `blorb_dump` it inspects containers, under any other name it launches a program.
Arguments, variables and names of files come to it as text, so it can reach no other paths.
-/

namespace StoryBundle.Outer

/-- The cause of a failed access, by the number that the system gives for it. -/
def causeOfCode (code : Nat) (text : String) : AccessError :=
  match code with
  | 2 => .notFound
  | 5 => .inputOutput
  | 13 => .permissionDenied
  | 20 => .notADirectory
  | 21 => .isADirectory
  | 36 => .nameTooLong
  | _ => .other code text

/-- Numbers may come with their sign turned. -/
def systemCode (code : UInt32) : Nat :=
  if code.toNat < 0x80000000 then code.toNat else UInt32.size - code.toNat

def causeOf : IO.Error → AccessError
  | .noFileOrDirectory _ code text => causeOfCode (systemCode code) text
  | .inappropriateType _ code text => causeOfCode (systemCode code) text
  | .permissionDenied _ code text => causeOfCode (systemCode code) text
  | .invalidArgument _ code text => causeOfCode (systemCode code) text
  | .hardwareFault code text => causeOfCode (systemCode code) text
  | other => .other 0 (toString other)

/-- The name of a place that can be reached. The empty name leads nowhere. -/
def reachable? (path : Path) : Option String := path.text?.filter (· != "")

/-- Whether a path leads to a regular file. -/
def isRegular (path : Path) : IO Bool := do
  let some name := reachable? path | return false
  try
    let place := (← IO.currentDir) / name
    return (← place.metadata).type == .file
  catch _ => return false

def content (path : Path) : IO (Except AccessError Bytes) := do
  let some name := reachable? path | return .error .notFound
  try return .ok (← IO.FS.readBinFile name).toList
  catch cause => return .error (causeOf cause)

def look (path : Path) : IO (Path × Sight) := do
  return (path, ⟨← isRegular path, ← content path⟩)

def lookAll (paths : List Path) : IO Snapshot := do
  return ⟨← paths.mapM look, []⟩

def kindOf : IO.FS.FileType → EntryKind
  | .file => .file
  | .dir => .directory
  | _ => .other

/-- What a walk comes by at a path and below it. A link to a directory is entered only where the walk
starts. -/
partial def walk (starts : Bool) (path : Path) : IO (List (Except AccessError Visit)) := do
  let some name := reachable? path | return [.error .notFound]
  try
    let place := (← IO.currentDir) / name
    let kind := kindOf (← place.symlinkMetadata).type
    let entered ← if starts then place.isDir else pure (kind == .directory)
    if entered then return .ok ⟨path, kind⟩ :: (← walkBelow path name)
    else return [.ok ⟨path, kind⟩]
  catch cause => return [.error (causeOf cause)]
where
  walkBelow (path : Path) (name : String) : IO (List (Except AccessError Visit)) := do
    try
      let place := (← IO.currentDir) / name
      let names : List Path := (← place.readDir).toList.map fun entry => entry.fileName
      return (← names.mapM fun below => walk false (path.join below)).flatten
    catch cause => return [.error (causeOf cause)]

def environment : IO Environment := do
  let names := ["HOME", "ZCODE_PATH", "QUENDOR_PATH", "RUST_LOG"]
  let values ← names.mapM fun name => do return (name, ← IO.getEnv name)
  return fun name => (values.lookup name).join.map Text.Utf8.encode

/-- Looks first where the request says, and then where the settings that it leads to say. -/
def launch (all : List Bytes) : IO CommandLine.Outcome := do
  let environment ← environment
  let working : Path := (← IO.currentDir).toString
  match CommandLine.Launch.Arguments.read all with
  | .error stop => return .stopped CommandLine.Launch.about stop
  | .ok arguments =>
    let dirs := SearchDirs.ofEnvironment environment working
    let first ← lookAll (Bundle.preparePaths dirs arguments.request)
    let further :=
      match (Bundle.prepare first.fileSystem dirs arguments.request).outcome with
      | .ok bundle => Bundle.configuredPaths dirs bundle.settings
      | .error _ => []
    let seen := first.and (← lookAll further)
    return CommandLine.Launch.runWith seen.fileSystem environment working arguments

def inspect (all : List Bytes) : IO CommandLine.Outcome := do
  match CommandLine.Inspect.Arguments.read all with
  | .error stop => return .stopped CommandLine.Inspect.about stop
  | .ok arguments =>
    match arguments.subject with
    | .files paths =>
      return CommandLine.Inspect.runWith (← lookAll paths).fileSystem arguments
    | .below root =>
      let visits ← walk true root
      let seen ← lookAll (visits.filterMap CommandLine.Inspect.containerOf?)
      return CommandLine.Inspect.runWith { seen with visits }.fileSystem arguments

end StoryBundle.Outer

open StoryBundle in
def main (texts : List String) : IO UInt32 := do
  let inspecting := (← IO.appPath).fileName == some "blorb_dump"
  let arguments := texts.map Text.Utf8.encode
  let outcome ← if inspecting then Outer.inspect arguments else Outer.launch arguments
  IO.print outcome.stdout
  IO.eprint outcome.stderr
  return UInt32.ofNat outcome.code
