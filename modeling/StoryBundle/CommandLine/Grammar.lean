import StoryBundle.Path

/-!
# Command-line arguments

A grammar says which options a program takes and how many words may stand alone. Arguments are
byte strings, read from left to right. The first one that breaks the grammar, or that asks for the
version or for help, ends the reading, and what comes after it no longer matters.
-/

namespace StoryBundle.CommandLine

/-- What a value has to be. -/
inductive Kind where
  /-- A text, which may be empty. -/
  | text
  /-- A path, which need not be text and may not be empty. -/
  | path
deriving DecidableEq, Repr

/-- What an option calls for. -/
inductive Use where
  /-- Nothing, at most once. -/
  | flag
  /-- Nothing, any number of times. -/
  | counted
  /-- A value, at most once. -/
  | value (kind : Kind)
deriving DecidableEq, Repr

structure OptionRule where
  name : String
  /-- An ASCII letter. -/
  letter? : Option Char
  use : Use
deriving DecidableEq, Repr

structure Grammar where
  options : List OptionRule
  /-- How many words may stand alone. -/
  wordLimit? : Option Nat
  wordKind : Kind
deriving DecidableEq, Repr

inductive Value where
  | text (value : String)
  | path (value : Path)
deriving DecidableEq, Repr

/-- An argument that has been read. -/
inductive Argument where
  | option (name : String) (value? : Option Value)
  | word (value : Value)
deriving DecidableEq, Repr

/-- Why the reading of arguments ends early. -/
inductive Stop where
  | rejected
  | version
  | help
deriving DecidableEq, Repr

/-- How far the reading has come. -/
structure Progress where
  arguments : List Argument
  /-- The option whose value must come next, and what the value has to be. -/
  awaiting? : Option (String × Kind)
  /-- Two dashes have been seen, after which every word stands alone. -/
  wordsOnly : Bool
deriving DecidableEq, Repr

/-- The value of a kind that a byte string stands for. -/
def Kind.value? : Kind → Bytes → Option Value
  | text, bytes => (Text.Utf8.text? bytes).map .text
  | path, bytes => if bytes = [] then none else some (.path ⟨bytes⟩)

namespace Value

def text? : Value → Option String
  | text value => some value
  | path _ => none

def path? : Value → Option Path
  | text _ => none
  | path value => some value

end Value

namespace Argument

def isWord : Argument → Bool
  | word _ => true
  | option .. => false

def isOption (name : String) : Argument → Bool
  | option other _ => other == name
  | word _ => false

def word? : Argument → Option Value
  | word value => some value
  | option .. => none

/-- The value that an argument gives to an option. -/
def valueOf? (name : String) : Argument → Option Value
  | option other value? => if other = name then value? else none
  | word _ => none

end Argument

namespace Grammar

/-- The byte of a dash. -/
@[match_pattern] abbrev dash : UInt8 := 0x2D

/-- The byte of an equals sign. -/
@[match_pattern] abbrev equals : UInt8 := 0x3D

def byName? (grammar : Grammar) (name : String) : Option OptionRule :=
  grammar.options.find? (·.name == name)

def byLetter? (grammar : Grammar) (letter : Char) : Option OptionRule :=
  grammar.options.find? (·.letter? == some letter)

/-- Takes a word that stands alone, if the grammar has room for it. -/
def takeWord (grammar : Grammar) (progress : Progress) (bytes : Bytes) : Except Stop Progress :=
  let full :=
    grammar.wordLimit?.any fun limit => limit ≤ (progress.arguments.filter Argument.isWord).length
  if full then .error .rejected
  else match grammar.wordKind.value? bytes with
    | none => .error .rejected
    | some value => .ok { progress with arguments := progress.arguments ++ [.word value] }

/-- Takes an option that needs no value. -/
def takeFlag (rule : OptionRule) (progress : Progress) : Except Stop Progress :=
  if rule.use ≠ .counted ∧ progress.arguments.any (Argument.isOption rule.name) then
    .error .rejected
  else .ok { progress with arguments := progress.arguments ++ [.option rule.name none] }

/-- Takes an option with its value. -/
def takeValue (name : String) (kind : Kind) (progress : Progress) (bytes : Bytes) :
    Except Stop Progress :=
  if progress.arguments.any (Argument.isOption name) then .error .rejected
  else match kind.value? bytes with
    | none => .error .rejected
    | some value => .ok { progress with
        arguments := progress.arguments ++ [.option name (some value)]
        awaiting? := none }

/-- Takes a long option, which stands after two dashes and may carry its value. Its name must be
text. -/
def takeLong (grammar : Grammar) (progress : Progress) (bytes : Bytes) : Except Stop Progress :=
  match Text.Utf8.text? (bytes.takeWhile (· != equals)), bytes.dropWhile (· != equals) with
  | none, _ => .error .rejected
  | some name, [] =>
    match grammar.byName? name with
    | some rule =>
      match rule.use with
      | .value kind => .ok { progress with awaiting? := some (name, kind) }
      | _ => takeFlag rule progress
    | none =>
      if name = "version" then .error .version
      else if name = "help" then .error .help
      else .error .rejected
  | some name, _ :: carried =>
    match grammar.byName? name with
    | some rule =>
      match rule.use with
      | .value kind => takeValue name kind progress carried
      | _ => .error .rejected
    | none => .error .rejected

/-- Takes the letters after one dash. A letter that needs a value takes the rest, less an equals
sign in front, or the next argument if nothing is left. A byte outside ASCII is no letter. -/
def takeLetters (grammar : Grammar) (progress : Progress) : Bytes → Except Stop Progress
  | [] => .ok progress
  | byte :: rest =>
    let letter := Char.ofNat byte.toNat
    match grammar.byLetter? letter with
    | some rule =>
      match rule.use with
      | .value kind =>
        match rest with
        | [] => .ok { progress with awaiting? := some (rule.name, kind) }
        | equals :: value => takeValue rule.name kind progress value
        | value => takeValue rule.name kind progress value
      | _ => do takeLetters grammar (← takeFlag rule progress) rest
    | none =>
      if letter = 'V' then .error .version
      else if letter = 'h' then .error .help
      else .error .rejected

/-- Takes one argument. -/
def take (grammar : Grammar) (progress : Progress) (bytes : Bytes) : Except Stop Progress :=
  if progress.wordsOnly then takeWord grammar progress bytes
  else match progress.awaiting?, bytes with
    | some (name, kind), [dash] => takeValue name kind progress bytes
    | some _, dash :: _ => .error .rejected
    | some (name, kind), _ => takeValue name kind progress bytes
    | none, [dash, dash] => .ok { progress with wordsOnly := true }
    | none, dash :: dash :: long => takeLong grammar progress long
    | none, [dash] => takeWord grammar progress bytes
    | none, dash :: letters => takeLetters grammar progress letters
    | none, _ => takeWord grammar progress bytes

/-- Reads all arguments. At the end no option may still await its value. -/
def read (grammar : Grammar) (all : List Bytes) : Except Stop (List Argument) := do
  let progress ← all.foldlM grammar.take ⟨[], none, false⟩
  match progress.awaiting? with
  | none => .ok progress.arguments
  | some _ => .error .rejected

end Grammar
end StoryBundle.CommandLine
