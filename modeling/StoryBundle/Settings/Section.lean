import StoryBundle.Settings.Basic
import StoryBundle.Story.Header
import StoryBundle.Text.Blank

/-!
# Sections of a settings file

A line of two percent signs breaks a settings file into sections. Within a section a line that
starts with a key and a colon gives a value, and the first such line for a key counts.
-/

namespace StoryBundle.Section

/-- Two percent signs, with spaces and tabs around them and perhaps a carriage return at the end. -/
def isBreak (line : List Char) : Bool :=
  match line.dropWhile Text.isIndent with
  | '%' :: '%' :: rest =>
    let rest := rest.dropWhile Text.isIndent
    rest == [] || rest == ['\r']
  | _ => false

/-- Puts a line in front of the sections of the lines below it. The line feed that ends a break
belongs to the section after it. -/
def addLine (line : List Char) : List (List Char) → List (List Char)
  | [] => if isBreak line then [[], []] else [line]
  | below :: rest =>
    if isBreak line then [] :: ('\n' :: below) :: rest else (line ++ '\n' :: below) :: rest

/-- The sections of a text, without the lines that break it. -/
def split (text : List Char) : List (List Char) := (Text.lines text).foldr addLine []

/-- What follows a key and a colon at the start of a line, which may be indented. -/
def labelled? (key : List Char) (line : List Char) : Option (List Char) :=
  let label := key ++ [':']
  let line := line.dropWhile Text.isIndent
  if label.isPrefixOf line then some (line.drop label.length) else none

/-- What follows a key on the first line that has it. -/
def capture? (key : List Char) (content : List Char) : Option (List Char) :=
  (Text.lines content).findSome? (labelled? key)

/-- The value of a setting, empty if no line makes it. -/
def value (content : List Char) (setting : Setting) : List Char :=
  match capture? setting.key.toList content with
  | some captured => Text.trim captured
  | none => []

/-- The word in front of the list of titles that a section is for. -/
def titlesKey : List Char := "id".toList

/-- A section is for a title if one of the words that it lists contains the title's text. -/
def lists (content : List Char) (title : TitleId) : Bool :=
  match capture? titlesKey content with
  | some titles => (Text.words titles).any (Text.occursIn title.text.toList)
  | none => false

end Section

/-- The settings that a section makes. -/
def Settings.ofSection (content : String) : Settings :=
  .ofValues fun setting => String.ofList (Section.value content.toList setting)

end StoryBundle
