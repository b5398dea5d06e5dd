import StoryBundle.Bundle.Basic
import StoryBundle.CommandLine.Log
import StoryBundle.CommandLine.Outcome
import StoryBundle.Text.Json

/-!
# Launching a program

The command that gathers a bundle and reports what it holds, as text or as JSON.
-/

namespace StoryBundle.CommandLine

/-- What a report says of a resource container. -/
structure ContainerSummary where
  release : UInt16
  resources : Nat
  size : Nat
  /-- The container was checked against the story. -/
  verified : Bool
deriving DecidableEq, Repr

def ContainerSummary.of (container : Container) : ContainerSummary :=
  ⟨container.release, container.index.length, container.data.length, container.reference.isSome⟩

/-- What is reported of a bundle. -/
structure Report where
  details : StoryDetails
  title : TitleId
  settings : Settings
  containers : List ContainerSummary
deriving DecidableEq, Repr

namespace Report

def of (bundle : Bundle) : Except DecodeError Report :=
  bundle.story.details.map fun details =>
    ⟨details, bundle.title, bundle.settings, bundle.containers.map .of⟩

def settingLine : String × String → String
  | (key, value) =>
    let shown := if value = "" then "-" else value
    s!"  {Text.alignLeft 8 key} {shown}\n"

def containerLine (position : Nat) (summary : ContainerSummary) : String :=
  let mark := if summary.verified then " (verified)" else ""
  s!"  {Text.alignRight 2 (toString position)}. " ++
    s!"release {Text.alignLeft 5 (toString summary.release.toNat)} " ++
    s!"{Text.alignRight 4 (toString summary.resources)} resources " ++
    s!"{Text.alignRight 10 (toString summary.size)} bytes{mark}\n"

/-- The paragraph on resource containers, which are counted from zero. -/
def containersText (containers : List ContainerSummary) : String :=
  if containers.isEmpty then "\nNo resource files.\n"
  else "\nResource files:\n" ++
    String.join (containers.zipIdx.map fun (summary, position) => containerLine position summary)

def text (report : Report) : String :=
  let details := report.details
  let header := details.header
  s!"Program: {details.path.shown}\n" ++
    s!"  format: {details.packaging.label} | version: {header.version.toNat} | " ++
    s!"size: {details.size} bytes\n" ++
    s!"  release: {header.release.toNat} | serial: {header.serialText} | " ++
    s!"checksum: 0x{Text.upperHex 4 header.checksum.toNat}\n" ++
    s!"  identity: {report.title.text}\n" ++
    "\nConfiguration:\n" ++ String.join (report.settings.entries.map settingLine) ++
    containersText report.containers

def detailsJson (details : StoryDetails) : Except String Json := do
  let file ← details.path.json
  pure (.object [("file", file), ("format", .text details.packaging.label),
    ("size", .number details.size), ("version", .number details.header.version.toNat),
    ("release", .number details.header.release.toNat), ("serial", .text details.header.serialText),
    ("checksum", .number details.header.checksum.toNat),
    ("identity", .text details.header.title.text)])

def containerJson (summary : ContainerSummary) : Json :=
  .object [("release", .number summary.release.toNat), ("resources", .number summary.resources),
    ("size", .number summary.size), ("verified", .truth summary.verified)]

/-- The report as JSON, or the wording of why it has no such form. -/
def json (report : Report) : Except String Json := do
  let program ← detailsJson report.details
  pure (.object [("program", program),
    ("config", .object (report.settings.entries.map fun (key, value) => (key, .text value))),
    ("blorbs", .array (report.containers.map containerJson))])

end Report

namespace Launch

def about : Outcome.About where
  name := "quendor_engine"
  version := "0.1.0"
  summary := "Execute a zcode program on the Z-Machine"
  synopsis := "quendor [OPTIONS] <PROGRAM>"

def grammar : Grammar where
  options := [⟨"resource", some 'r', .value .text⟩, ⟨"config", none, .value .path⟩,
    ⟨"json", none, .flag⟩, ⟨"verbose", some 'v', .counted⟩]
  wordLimit? := some 1
  wordKind := .text

structure Arguments where
  request : Request
  json : Bool
  verbosity : Nat
deriving DecidableEq, Repr

namespace Arguments

/-- A program must be named. -/
def ofList (arguments : List Argument) : Except Stop Arguments :=
  match (arguments.findSome? Argument.word?).bind Value.text? with
  | none => .error .rejected
  | some program => .ok {
      request := {
        program
        resource? := (arguments.findSome? (Argument.valueOf? "resource")).bind Value.text?
        settings? := (arguments.findSome? (Argument.valueOf? "config")).bind Value.path? }
      json := arguments.any (Argument.isOption "json")
      verbosity := (arguments.filter (Argument.isOption "verbose")).length }

def read (all : List Bytes) : Except Stop Arguments := do
  ofList (← grammar.read all)

end Arguments

/-- The line above a report in plain text. -/
def banner : String := s!"\nQuendor Z-Machine Interpreter (version: {about.version})\n\n"

/-- The failure of a report that has no JSON form. -/
def unwritable (cause : String) : Failure := ⟨"serializing startup bundle to JSON", some cause⟩

/-- What is printed of a report. -/
def output (json : Bool) (report : Report) : Except Failure String :=
  if json then (report.json.mapError unwritable).map fun document => document.render ++ "\n"
  else .ok (banner ++ report.text)

/-- The failure that a bundle which cannot be gathered is reported with. -/
def failureOf (cause : BundleError) : Failure := ⟨cause.message, cause.causeMessage?⟩

/-- The report of a bundle. -/
def report (bundle : Bundle) : Except Failure Report :=
  (Report.of bundle).mapError fun cause => ⟨"reading program header", some cause.message⟩

/-- Gathers what the arguments ask for and reports it. -/
def runWith (files : FileSystem) (environment : Environment) (working : Path)
    (arguments : Arguments) : Outcome :=
  let dirs := SearchDirs.ofEnvironment environment working
  let gathered := Bundle.gather files dirs arguments.request
  let log := logText (.ofEnvironment environment arguments.verbosity) gathered.notes
  match gathered.outcome.mapError failureOf >>= report >>= output arguments.json with
  | .error failure => .failed failure log
  | .ok printed => .success printed log

def run (files : FileSystem) (environment : Environment) (working : Path)
    (all : List Bytes) : Outcome :=
  match Arguments.read all with
  | .error stop => .stopped about stop
  | .ok arguments => runWith files environment working arguments

end Launch
end StoryBundle.CommandLine
