import StoryBundle.CommandLine.Grammar
import StoryBundle.Text.Aligned

/-!
# Outcomes of a program

What a run of a program ends in: an exit status and the texts on its two outputs.
-/

namespace StoryBundle.CommandLine

structure Outcome where
  code : Nat
  stdout : String
  stderr : String
deriving DecidableEq, Repr

/-- A failure with the wording of what lies underneath. -/
structure Failure where
  message : String
  cause? : Option String
deriving DecidableEq, Repr

/-- The report of a failure. Every line of the cause is indented. -/
def Failure.report (failure : Failure) : String :=
  s!"Error: {failure.message}\n" ++
    match failure.cause? with
    | none => ""
    | some cause => "\nCaused by:\n    " ++ Text.hangingIndent "    " cause ++ "\n"

namespace Outcome

def success (output log : String) : Outcome := ⟨0, output, log⟩

/-- Nothing is printed but the log and the report. -/
def failed (failure : Failure) (log : String) : Outcome := ⟨1, "", log ++ failure.report⟩

/-- What a program says of itself. -/
structure About where
  name : String
  version : String
  summary : String
  synopsis : String
deriving DecidableEq, Repr

/-- The outcome of a run that ends while its arguments are read. -/
def stopped (about : About) : Stop → Outcome
  | .rejected => ⟨2, "", "usage"⟩
  | .version => success s!"{about.name} {about.version}\n" ""
  | .help => success s!"{about.summary}\n\nUsage: {about.synopsis}\n" ""

end Outcome
end StoryBundle.CommandLine
