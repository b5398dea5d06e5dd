import StoryBundle.Logged
import StoryBundle.Search
import StoryBundle.Text.Aligned
import StoryBundle.Text.Blank
import StoryBundle.Text.Plain

/-!
# The log of a run

Which notes are shown on the error output, and the line that each of them gives.
-/

namespace StoryBundle.CommandLine

/-- Shows the notes of the targets that start with a text, up to a severity. -/
structure LogFilter where
  target : String
  threshold? : Option Severity
deriving DecidableEq, Repr

/-- The name under which a topic is logged. -/
def targetName : Topic → String
  | .container => "quendor_formats::blorb"
  | .search => "quendor_engine::search"
  | .story => "quendor_engine::program"
  | .settings => "quendor_engine::config"
  | .bundle => "quendor_engine::startup"

namespace LogFilter

/-- The severity to which `-v`, given so many times, opens the log. -/
def ofVerbosity (count : Nat) : LogFilter :=
  ⟨"", some (if count = 0 then .warn else if count = 1 then .info else .debug)⟩

/-- The severities that a word can name. -/
def severities : List Severity := [.error, .warn, .info, .debug, .trace]

/-- A severity shows all targets up to it. Any other word shows all of one target. -/
def ofWord (word : String) : LogFilter :=
  let word := String.ofList (Text.trim word.toList)
  let lower := word.map Char.toLower
  if lower = "" then ⟨"", some .error⟩
  else if lower = "off" then ⟨"", none⟩
  else match severities.find? (·.label.map Char.toLower == lower) with
    | some severity => ⟨"", some severity⟩
    | none => ⟨word, some .trace⟩

/-- The filter that the environment sets, if it sets a text, or else the one of `-v`. -/
def ofEnvironment (environment : Environment) (verbosity : Nat) : LogFilter :=
  match (environment "RUST_LOG").bind Text.Utf8.text? with
  | some word => ofWord word
  | none => ofVerbosity verbosity

def shows (filter : LogFilter) (note : Note) : Bool :=
  filter.target.toList.isPrefixOf (targetName note.topic).toList &&
    filter.threshold?.any (·.reaches note.severity)

end LogFilter

/-- A note as a line of the log. What does not fit on one line hangs below it, and nothing in it
can control a terminal. -/
def logLine (note : Note) : String :=
  Text.plain (s!"[{Text.alignLeft 5 note.severity.label} {targetName note.topic}] " ++
    Text.hangingIndent "    " note.text ++ "\n")

/-- The lines of the notes that a filter shows. -/
def logText (filter : LogFilter) (notes : List Note) : String :=
  String.join ((notes.filter filter.shows).map logLine)

end StoryBundle.CommandLine
