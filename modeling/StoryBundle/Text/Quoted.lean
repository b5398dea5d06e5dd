import StoryBundle.Text.Hexadecimal

/-!
# Quoted text

Latin-1 text between double quotes, written so that nothing invisible is left raw: a quote and a
backslash are escaped, the four common control characters have names, and every other control
character, the no-break space and the soft hyphen appear as a braced code point.
-/

namespace StoryBundle.Text.Quoted

/-- Characters that leave no mark of their own on a line. -/
def isHidden (c : Char) : Bool :=
  c.toNat < 0x20 || (0x7F ≤ c.toNat && c.toNat ≤ 0xA0) || c.toNat == 0xAD

/-- The written form of one character between the quotes. -/
def escape (c : Char) : List Char :=
  if c = '"' then ['\\', '"']
  else if c = '\\' then ['\\', '\\']
  else if c = '\x00' then ['\\', '0']
  else if c = '\t' then ['\\', 't']
  else if c = '\n' then ['\\', 'n']
  else if c = '\r' then ['\\', 'r']
  else if isHidden c then ['\\', 'u', '\x7b'] ++ hexDigits c.toNat ++ ['\x7d']
  else [c]

def encode (text : List Char) : List Char := '"' :: (text.flatMap escape ++ ['"'])

end Quoted

/-- A text between double quotes with its hidden characters escaped. -/
def quoted (text : String) : String := String.ofList (Quoted.encode text.toList)

end StoryBundle.Text
