import Mathlib.Algebra.Group.Nat.Defs
import StoryBundle.Text.Hexadecimal

/-!
# Digits of numbers

A number that fits into a width has one digit for each place of it when it is padded
(`hexPadded_eq_hexPlaces`), and a number in base ten has nothing but digits. The digits of a number
can be read back in both bases (`hexValue_hexDigits`, `toList_toString_injective`).
-/

namespace StoryBundle.Text

theorem hexDigits_of_lt {value : Nat} (small : value < 16) : hexDigits value = [value.digitChar] :=
  Nat.toDigits_of_lt_base small

/-- The last digit stands behind those of the quotient. -/
theorem hexDigits_of_le {value : Nat} (large : 16 ≤ value) :
    hexDigits value = hexDigits (value / 16) ++ [(value % 16).digitChar] :=
  Nat.toDigits_of_base_le (by decide) large

/-! ## Padded digits -/

/-- The base-sixteen digits of the last `width` places of a number. -/
def hexPlaces : Nat → Nat → List Char
  | 0, _ => []
  | width + 1, value => hexPlaces width (value / 16) ++ [(value % 16).digitChar]

theorem hexPlaces_zero (width : Nat) : hexPlaces width 0 = List.replicate width '0' := by
  induction width with
  | zero => rfl
  | succ width ih => rw [hexPlaces, Nat.zero_div, ih, List.replicate_succ']; rfl

theorem hexPadded_of_lt {value : Nat} (small : value < 16) (width : Nat) :
    hexPadded (width + 1) value = List.replicate width '0' ++ [value.digitChar] := by
  rw [hexPadded, hexDigits_of_lt small]
  rfl

/-- The last digit stands behind the padded others. -/
theorem hexPadded_of_le {value : Nat} (large : 16 ≤ value) (width : Nat) :
    hexPadded (width + 1) value = hexPadded width (value / 16) ++ [(value % 16).digitChar] := by
  simp only [hexPadded, hexDigits_of_le large, List.length_append, List.length_singleton, Nat.add_sub_add_right,
    List.append_assoc]

/-- Padded digits are as many as the places that the number fits into. -/
theorem hexPadded_eq_hexPlaces {width value : Nat} (present : 0 < width)
    (small : value < 16 ^ width) : hexPadded width value = hexPlaces width value := by
  induction width generalizing value with
  | zero => cases present
  | succ width ih =>
    by_cases single : value < 16
    · rw [hexPadded_of_lt single, hexPlaces, Nat.div_eq_of_lt single, Nat.mod_eq_of_lt single,
        hexPlaces_zero]
    · have large : 16 ≤ value := Nat.le_of_not_lt single
      have room : value / 16 < 16 ^ width := Nat.div_lt_of_lt_mul (Nat.pow_succ' ▸ small)
      have more : 0 < width := by
        apply Nat.pos_of_ne_zero
        rintro rfl
        exact single small
      rw [hexPadded_of_le large, hexPlaces, ih more room]

/-! ## Reading base-sixteen digits -/

/-- A digit in base sixteen, in small letters. -/
def isHexDigit (c : Char) : Bool := c.isDigit || ('a' ≤ c && c ≤ 'f')

def hexDigitValue (digit : Char) : Nat :=
  if digit.isDigit then digit.toNat - '0'.toNat else digit.toNat - 'a'.toNat + 10

/-- The number that base-sixteen digits spell. -/
def hexValue (digits : List Char) : Nat :=
  digits.foldl (fun value digit => value * 16 + hexDigitValue digit) 0

theorem hexValue_concat (digits : List Char) (last : Char) :
    hexValue (digits ++ [last]) = hexValue digits * 16 + hexDigitValue last := by
  simp [hexValue, List.foldl_append]

theorem hexDigitValue_digitChar : ∀ digit < 16, hexDigitValue digit.digitChar = digit := by decide

theorem isHexDigit_digitChar : ∀ digit < 16, isHexDigit digit.digitChar = true := by decide

/-- A number has one digit, or one digit more than its sixteenth. -/
theorem hexDigits_induction {motive : Nat → Prop} (single : ∀ value < 16, motive value)
    (more : ∀ value, 16 ≤ value → motive (value / 16) → motive value) (value : Nat) :
    motive value := by
  induction value using Nat.strongRecOn with
  | ind value ih =>
    rcases Nat.lt_or_ge value 16 with small | large
    · exact single value small
    · exact more value large (ih _ (Nat.div_lt_self (by omega) (by decide)))

theorem hexValue_hexDigits (value : Nat) : hexValue (hexDigits value) = value := by
  induction value using hexDigits_induction with
  | single value small =>
    rw [hexDigits_of_lt small]
    exact (Nat.zero_add _).trans (hexDigitValue_digitChar value small)
  | more value large ih =>
    rw [hexDigits_of_le large, hexValue_concat, ih,
      hexDigitValue_digitChar _ (Nat.mod_lt _ (by decide))]
    exact Nat.div_add_mod' value 16

theorem isHexDigit_of_mem_hexDigits {value : Nat} {c : Char} (inside : c ∈ hexDigits value) :
    isHexDigit c = true := by
  induction value using hexDigits_induction with
  | single value small =>
    rw [hexDigits_of_lt small, List.mem_singleton] at inside
    exact inside ▸ isHexDigit_digitChar value small
  | more value large ih =>
    rw [hexDigits_of_le large, List.mem_append, List.mem_singleton] at inside
    rcases inside with front | rfl
    · exact ih front
    · exact isHexDigit_digitChar _ (Nat.mod_lt _ (by decide))

/-- No digits start with a zero but those of zero. -/
theorem head?_hexDigits_ne_zero {value : Nat} (positive : 0 < value) :
    (hexDigits value).head? ≠ some '0' := by
  induction value using hexDigits_induction with
  | single value small =>
    rw [hexDigits_of_lt small, List.head?_singleton, ne_eq, Option.some.injEq,
      Nat.digitChar_eq_zero]
    exact Nat.ne_of_gt positive
  | more value large ih =>
    have front := ih (Nat.div_pos large (by decide))
    have present : hexDigits (value / 16) ≠ [] := Nat.toDigits_ne_nil
    rw [hexDigits_of_le large, List.head?_append, List.head?_eq_some_head present, Option.some_or]
    rwa [List.head?_eq_some_head present] at front

/-! ## Decimal digits -/

theorem isDigit_of_mem_toString {value : Nat} {c : Char} (inside : c ∈ (toString value).toList) :
    c.isDigit = true :=
  Nat.isDigit_of_mem_toDigits (by decide) (Nat.le_refl 10) (Nat.toList_repr ▸ inside)

theorem not_mem_toString {c : Char} (other : c.isDigit = false) (value : Nat) :
    c ∉ (toString value).toList := by
  intro inside
  rw [isDigit_of_mem_toString inside] at other
  cases other

/-- The digits of a number tell the number. -/
theorem toList_toString_injective {value other : Nat}
    (same : (toString value).toList = (toString other).toList) : value = other := by
  have digits : Nat.toDigits 10 value = Nat.toDigits 10 other :=
    Nat.toList_repr.symm.trans (same.trans Nat.toList_repr)
  rw [← @Nat.ofDigitChars_toDigits 10 value (by decide) (by decide), digits,
    Nat.ofDigitChars_toDigits (by decide) (by decide)]

end StoryBundle.Text
