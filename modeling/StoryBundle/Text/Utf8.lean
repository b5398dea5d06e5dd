import StoryBundle.Bytes

/-!
# UTF-8 that may be damaged

Each well-formed sequence gives its character. Each longest run of bytes that begins a sequence
and cannot go on gives one replacement character, and so does each byte that begins none. A byte
that breaks a sequence is then read afresh, so a line feed is never swallowed. A byte string is text
if nothing in it is damaged.
-/

namespace StoryBundle.Text.Utf8

/-- A sequence of which some bytes are still due, with the range that the next one must lie in. -/
structure Partial where
  value : Nat
  due : Nat
  low : UInt8
  high : UInt8
deriving DecidableEq, Repr

/-- What the first byte of a sequence calls for. -/
inductive Lead where
  | whole (c : Char)
  | opening (rest : Partial)
  | stray
deriving DecidableEq, Repr

def replacement : Char := Char.ofNat 0xFFFD

/-- The second byte is narrowed where a longer form, a surrogate or a value past the last code
point would otherwise fit. -/
def lead (byte : UInt8) : Lead :=
  let code := byte.toNat
  if code < 0x80 then .whole (Char.ofNat code)
  else if code < 0xC2 then .stray
  else if code < 0xE0 then .opening ⟨code - 0xC0, 1, 0x80, 0xBF⟩
  else if code = 0xE0 then .opening ⟨0, 2, 0xA0, 0xBF⟩
  else if code = 0xED then .opening ⟨0xD, 2, 0x80, 0x9F⟩
  else if code < 0xF0 then .opening ⟨code - 0xE0, 2, 0x80, 0xBF⟩
  else if code = 0xF0 then .opening ⟨0, 3, 0x90, 0xBF⟩
  else if code < 0xF4 then .opening ⟨code - 0xF0, 3, 0x80, 0xBF⟩
  else if code = 0xF4 then .opening ⟨4, 3, 0x80, 0x8F⟩
  else .stray

/-- The characters read so far, latest first, and the sequence that is still open. -/
structure Reader where
  done : List Char
  pending : Option Partial
deriving DecidableEq, Repr

/-- A byte that no open sequence takes. -/
def Reader.begin (done : List Char) (byte : UInt8) : Reader :=
  match lead byte with
  | .whole c => ⟨c :: done, none⟩
  | .opening rest => ⟨done, some rest⟩
  | .stray => ⟨replacement :: done, none⟩

def Reader.feed (reader : Reader) (byte : UInt8) : Reader :=
  match reader.pending with
  | none => .begin reader.done byte
  | some open_ =>
    if open_.low ≤ byte ∧ byte ≤ open_.high then
      let value := open_.value * 64 + (byte.toNat - 0x80)
      if open_.due ≤ 1 then ⟨Char.ofNat value :: reader.done, none⟩
      else ⟨reader.done, some ⟨value, open_.due - 1, 0x80, 0xBF⟩⟩
    else .begin (replacement :: reader.done) byte

/-- A sequence that the end cuts off counts once. -/
def Reader.finish (reader : Reader) : List Char :=
  match reader.pending with
  | none => reader.done.reverse
  | some _ => (replacement :: reader.done).reverse

/-- The text of a byte string, with a replacement character for each damaged run. -/
def decode (bytes : Bytes) : List Char := (bytes.foldl Reader.feed ⟨[], none⟩).finish

/-- The bytes of a text. -/
def encode (text : String) : Bytes := text.toList.flatMap String.utf8EncodeChar

/-- The text of a byte string, if nothing in it is damaged. Only then are its bytes those of the
text that is read from it. -/
def text? (bytes : Bytes) : Option String :=
  let text := String.ofList (decode bytes)
  if encode text = bytes then some text else none

end StoryBundle.Text.Utf8
