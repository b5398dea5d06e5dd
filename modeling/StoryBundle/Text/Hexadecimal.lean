/-!
# Hexadecimal text

Digits of a number in base sixteen, either as few as it needs or padded to a width.
-/

namespace StoryBundle.Text

/-- The fewest base-sixteen digits of a number, in small letters. -/
def hexDigits (value : Nat) : List Char := Nat.toDigits 16 value

/-- The digits padded on the left with zeros to at least `width`. -/
def hexPadded (width value : Nat) : List Char :=
  let digits := hexDigits value
  List.replicate (width - digits.length) '0' ++ digits

/-- Small-letter digits, at least `width` of them. -/
def lowerHex (width value : Nat) : String := String.ofList (hexPadded width value)

/-- Capital-letter digits, at least `width` of them. -/
def upperHex (width value : Nat) : String := (lowerHex width value).map Char.toUpper

end StoryBundle.Text
