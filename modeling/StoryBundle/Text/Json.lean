import StoryBundle.Path
import StoryBundle.Text.Hexadecimal

/-!
# JSON documents

A JSON value and its printed form: two spaces for each level, one item on a line, fields in the
order in which they are listed, and no escape but those that JSON demands. JSON holds text only, so
a path that is not text has no JSON form (`Path.json`).
-/

namespace StoryBundle

inductive Json where
  | text (value : String)
  | number (value : Nat)
  | truth (value : Bool)
  | array (items : List Json)
  | object (fields : List (String × Json))

namespace Json

/-- A quote, a backslash and the control characters below the space are escaped. -/
def escape (c : Char) : List Char :=
  if c = '"' then ['\\', '"']
  else if c = '\\' then ['\\', '\\']
  else if c = '\x08' then ['\\', 'b']
  else if c = '\t' then ['\\', 't']
  else if c = '\n' then ['\\', 'n']
  else if c = '\x0c' then ['\\', 'f']
  else if c = '\r' then ['\\', 'r']
  else if c.toNat < 0x20 then ['\\', 'u'] ++ Text.hexPadded 4 c.toNat
  else [c]

def quote (text : String) : String :=
  String.ofList ('"' :: (text.toList.flatMap escape ++ ['"']))

def newline (depth : Nat) : String := "\n" ++ String.ofList (List.replicate (2 * depth) ' ')

/-- Items between their brackets, each on a line one level deeper. -/
def block (opening closing : String) (depth : Nat) (items : List String) : String :=
  if items.isEmpty then opening ++ closing
  else opening ++ newline (depth + 1) ++ (s!",{newline (depth + 1)}").intercalate items ++
    newline depth ++ closing

mutual
/-- The printed form of a value that starts at a given depth. -/
def renderAt (depth : Nat) : Json → String
  | .text value => quote value
  | .number value => toString value
  | .truth value => if value then "true" else "false"
  | .array items => block "[" "]" depth (renderItems (depth + 1) items)
  | .object fields => block "\x7b" "\x7d" depth (renderFields (depth + 1) fields)

def renderItems (depth : Nat) : List Json → List String
  | [] => []
  | item :: rest => renderAt depth item :: renderItems depth rest

def renderFields (depth : Nat) : List (String × Json) → List String
  | [] => []
  | (name, value) :: rest =>
    (quote name ++ ": " ++ renderAt depth value) :: renderFields depth rest
end

def render (value : Json) : String := renderAt 0 value

end Json

/-- The JSON form of a path, or the wording of why it has none. -/
def Path.json (path : Path) : Except String Json :=
  match path.text? with
  | some text => .ok (.text text)
  | none => .error "path contains invalid UTF-8 characters"

end StoryBundle
