/-!
# Plain text

Text for an output that is not a terminal. Control characters other than the layout of lines are
left out, and so are the control sequences that would move a cursor, set a colour or carry a
message to the terminal. A layout character inside a sequence ends its leaving out: what follows it
is shown, and the sequence goes on only at the next character that is left out.
-/

namespace StoryBundle.Text

/-- Tabs, line feeds, form feeds and carriage returns lay a text out. -/
def isLayout (c : Char) : Bool := c == '\t' || c == '\n' || c == '\x0c' || c == '\r'

/-- A character that is neither a control character of ASCII nor its delete character. -/
def isGraphic (c : Char) : Bool := 0x20 ≤ c.toNat && c.toNat ≠ 0x7F

namespace Plain

/-- How much of a control sequence has been read. -/
inductive Sequence where
  /-- None. -/
  | outside
  /-- The escape character that starts each of them. -/
  | escape
  /-- An escape character and what stands between it and its last character. -/
  | escapeMiddle
  /-- The start of a command with parameters, which ends at its first letter or sign past them. -/
  | command
  /-- The start of a device string. -/
  | deviceStart
  /-- A device string as far as its parameters. -/
  | deviceParameters
  /-- A device string as far as the characters between its parameters and its content. -/
  | deviceMiddle
  /-- The content of a device string, or a message to the terminal or to a program in it. -/
  | content
  /-- A command to the system around the terminal, which a bell ends. -/
  | system
deriving DecidableEq, Repr

/-- The byte that ends a string, which may also be part of a longer character. -/
def stringEnd : UInt8 := 0x9C

namespace Sequence

/-- What a character after the escape character starts or ends. -/
def afterEscape (c : Char) : Sequence :=
  if c = '[' then command
  else if c = ']' then system
  else if c = 'P' then deviceStart
  else if c = 'X' ∨ c = '^' ∨ c = '_' then content
  else outside

/-- What a visible character of ASCII makes of a sequence. -/
def afterVisible (sequence : Sequence) (c : Char) : Sequence :=
  let code := c.toNat
  match sequence with
  | outside => outside
  | escape => if code < 0x30 then escapeMiddle else afterEscape c
  | escapeMiddle => if code < 0x30 then escapeMiddle else outside
  | command => if code < 0x40 then command else outside
  | deviceStart =>
    if code < 0x30 then deviceMiddle else if code < 0x40 then deviceParameters else content
  | deviceParameters =>
    if code < 0x30 then deviceMiddle else if code < 0x3C then deviceParameters else content
  | deviceMiddle => if code < 0x30 then deviceMiddle else content
  | content => content
  | system => system

/-- What a character that is left out makes of a sequence. -/
def after (sequence : Sequence) (c : Char) : Sequence :=
  if c = '\x1b' then escape
  else if c = '\x18' ∨ c = '\x1a' then outside
  else if c = '\x07' ∧ sequence = system then outside
  else if 0x20 ≤ c.toNat ∧ c.toNat < 0x7F then sequence.afterVisible c
  else if sequence = content ∧ stringEnd ∈ String.utf8EncodeChar c then outside
  else sequence

/-- A character that is shown although a sequence was being read. Strings show nothing. -/
def shows (sequence : Sequence) (c : Char) : Bool :=
  match sequence with
  | outside => isGraphic c || isLayout c
  | escape => isLayout c
  | escapeMiddle => isLayout c
  | command => isLayout c
  | _ => false

end Sequence

/-- The characters shown so far, latest first, and where the reading stands. -/
structure Reader where
  shown : List Char
  sequence : Sequence
  /-- The character before was shown. -/
  showing : Bool
deriving DecidableEq, Repr

/-- Once a character has been shown, all that can be shown follow it. A character outside ASCII
ends a sequence that was interrupted. -/
def Reader.feed (reader : Reader) (c : Char) : Reader :=
  if (reader.showing && (isGraphic c || isLayout c)) || reader.sequence.shows c then
    ⟨c :: reader.shown, if c.toNat < 0x80 then reader.sequence else .outside, true⟩
  else ⟨reader.shown, reader.sequence.after c, false⟩

end Plain

/-- A text without control characters and control sequences. -/
def plain (text : String) : String :=
  String.ofList (text.toList.foldl Plain.Reader.feed ⟨[], .outside, false⟩).shown.reverse

end StoryBundle.Text
