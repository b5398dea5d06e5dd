import StoryBundle.Bytes

/-!
# Latin-1 text

Each byte is the character whose code point has the same value.
-/

namespace StoryBundle.Text

def latin1Char (byte : UInt8) : Char := Char.ofNat byte.toNat

/-- One character for each byte. -/
def latin1 (bytes : Bytes) : String := String.ofList (bytes.map latin1Char)

@[simp] theorem toList_latin1 (bytes : Bytes) : (latin1 bytes).toList = bytes.map latin1Char := by
  simp [latin1]

@[simp] theorem toNat_latin1Char (byte : UInt8) : (latin1Char byte).toNat = byte.toNat := by
  have valid : byte.toNat.isValidChar := .inl (Nat.lt_trans byte.toNat_lt (by decide))
  rw [latin1Char, Char.ofNat, dif_pos valid]
  rfl

theorem latin1Char_injective {left right : UInt8} (same : latin1Char left = latin1Char right) :
    left = right := by
  apply UInt8.toNat_inj.mp
  rw [← toNat_latin1Char left, same, toNat_latin1Char]

theorem map_latin1Char_injective {left right : Bytes}
    (same : left.map latin1Char = right.map latin1Char) : left = right :=
  (List.map_inj_right fun _ _ => latin1Char_injective).mp same

end StoryBundle.Text
