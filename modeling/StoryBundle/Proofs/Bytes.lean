import Mathlib.Algebra.Group.Nat.Defs
import Mathlib.Data.List.Induction
import StoryBundle.Bytes

/-!
# Reading what was laid out

The slice at a place of a concatenation is the part that stands there (`slice?_middle`). Byte
strings of one length that spell the same number are the same (`bigEndian_injective`), so a field
that is compared as a number is compared byte by byte.
-/

namespace StoryBundle.Bytes

/-- A slice within the first part of a concatenation does not see the second part. -/
theorem slice?_append_left {front rest : Bytes} {offset needed : Nat}
    (enough : offset + needed ≤ front.length) :
    slice? (front ++ rest) offset needed = slice? front offset needed := by
  have whole : offset + needed ≤ (front ++ rest).length := by
    rw [List.length_append]
    omega
  unfold slice?
  rw [if_pos enough, if_pos whole, List.drop_append_of_le_length (by omega),
    List.take_append_of_le_length (by rw [List.length_drop]; omega)]

theorem slice?_append_of_some {front rest piece : Bytes} {offset needed : Nat}
    (present : slice? front offset needed = some piece) :
    slice? (front ++ rest) offset needed = some piece := by
  rw [slice?_append_left (slice?_eq_some_iff.mp present).1, present]

/-- What starts where a slice does is the slice and what follows it. -/
theorem drop_of_slice? {data piece : Bytes} {offset needed : Nat}
    (present : slice? data offset needed = some piece) :
    data.drop offset = piece ++ data.drop (offset + needed) := by
  obtain ⟨_, rfl⟩ := slice?_eq_some_iff.mp present
  rw [← List.drop_drop, List.take_append_drop]

/-- A slice past the first part of a concatenation is a slice of the second part. -/
theorem slice?_append_right (front rest : Bytes) (offset needed : Nat) :
    slice? (front ++ rest) (front.length + offset) needed = slice? rest offset needed := by
  unfold slice?
  rw [List.length_append, Nat.add_assoc, List.drop_length_add_append]
  simp only [Nat.add_le_add_iff_left]

theorem slice?_self (bytes : Bytes) : slice? bytes 0 bytes.length = some bytes := by
  rw [slice?_eq_some_iff, Nat.zero_add, List.drop_zero, List.take_length]
  exact ⟨Nat.le_refl _, rfl⟩

/-- The slice at the place of a part is the part. -/
theorem slice?_middle {front middle rest : Bytes} {offset needed : Nat}
    (starts : front.length = offset) (width : middle.length = needed) :
    slice? (front ++ (middle ++ rest)) offset needed = some middle := by
  subst starts width
  calc slice? (front ++ (middle ++ rest)) front.length middle.length
    _ = slice? (middle ++ rest) 0 middle.length := slice?_append_right front _ 0 _
    _ = slice? middle 0 middle.length := slice?_append_left (Nat.le_of_eq (Nat.zero_add _))
    _ = some middle := slice?_self middle

/-- A slice of a slice is a slice of the whole. -/
theorem slice?_of_slice? {data piece : Bytes} {offset width inner needed : Nat}
    (present : slice? data offset width = some piece) (within : inner + needed ≤ width) :
    slice? data (offset + inner) needed = slice? piece inner needed := by
  have width_eq := length_of_slice? present
  obtain ⟨enough, taken⟩ := slice?_eq_some_iff.mp present
  have outer : offset + inner + needed ≤ data.length := by omega
  have room : needed ≤ width - inner := by omega
  unfold slice?
  rw [if_pos outer, if_pos (width_eq ▸ within), ← taken, List.drop_take, List.take_take,
    List.drop_drop, Nat.min_eq_left room]

/-- A slice can be counted from a place before it. -/
theorem slice?_drop {data piece : Bytes} {front offset needed : Nat}
    (present : slice? data (front + offset) needed = some piece) :
    slice? (data.drop front) offset needed = some piece := by
  obtain ⟨enough, rfl⟩ := slice?_eq_some_iff.mp present
  refine slice?_eq_some_iff.mpr ⟨?_, by rw [List.drop_drop]⟩
  rw [List.length_drop]
  omega

/-- What lies behind a slice does not matter. -/
theorem slice?_take {data piece : Bytes} {offset needed length : Nat}
    (present : slice? data offset needed = some piece) (within : offset + needed ≤ length) :
    slice? (data.take length) offset needed = some piece := by
  obtain ⟨enough, rfl⟩ := slice?_eq_some_iff.mp present
  have room : needed ≤ length - offset := by omega
  refine slice?_eq_some_iff.mpr ⟨?_, by rw [List.drop_take, List.take_take, Nat.min_eq_left room]⟩
  rw [List.length_take]
  omega

/-- A slice of two parts is there if each part is where it would stand. -/
theorem slice?_append_iff {data front back : Bytes} {offset width needed : Nat}
    (frontWidth : front.length = width) (backWidth : back.length = needed) :
    slice? data offset (width + needed) = some (front ++ back) ↔
      slice? data offset width = some front ∧ slice? data (offset + width) needed = some back := by
  subst frontWidth backWidth
  constructor
  · intro present
    constructor
    · exact (slice?_of_slice? present (by omega)).trans
        ((slice?_append_left (by omega)).trans (slice?_self front))
    · exact (slice?_of_slice? present (Nat.le_refl _)).trans
        ((slice?_append_right front back 0 _).trans (slice?_self back))
  · rintro ⟨before, behind⟩
    have enough := (slice?_eq_some_iff.mp behind).1
    refine slice?_eq_some_iff.mpr ⟨by omega, ?_⟩
    rw [drop_of_slice? before, drop_of_slice? behind, ← List.append_assoc]
    exact List.take_left' List.length_append

theorem toBigEndian_bigEndian (bytes : Bytes) :
    toBigEndian bytes.length (bigEndian bytes) = bytes := by
  induction bytes using List.reverseRecOn with
  | nil => rfl
  | append_singleton front byte ih =>
    have small : byte.toNat < 256 := byte.toNat_lt
    have high : (bigEndian front * 256 + byte.toNat) / 256 = bigEndian front := by omega
    have low : (bigEndian front * 256 + byte.toNat) % 256 = byte.toNat := by omega
    rw [bigEndian_append_byte, List.length_append, List.length_singleton, toBigEndian, high, low, ih,
      UInt8.ofNat_toNat]

theorem bigEndian_injective {left right : Bytes} (sameLength : left.length = right.length)
    (sameValue : bigEndian left = bigEndian right) : left = right := by
  rw [← toBigEndian_bigEndian left, ← toBigEndian_bigEndian right, sameLength, sameValue]

theorem span_pos (width : Nat) : 0 < span width := by
  induction width with
  | zero => exact Nat.one_pos
  | succ width ih => exact Nat.mul_pos (by decide) ih

theorem bigEndian_lt (bytes : Bytes) : bigEndian bytes < span bytes.length := by
  have readBack := bigEndian_toBigEndian bytes.length (bigEndian bytes)
  rw [toBigEndian_bigEndian] at readBack
  rw [readBack]
  exact Nat.mod_lt _ (span_pos bytes.length)

theorem bigEndian_lt_of_length_eq_four {word : Bytes} (width : word.length = 4) :
    bigEndian word < 2 ^ 32 := by
  have bound := bigEndian_lt word
  rw [width] at bound
  exact bound

theorem toNat_word16 {word : Bytes} (width : word.length = 2) :
    (word16 word).toNat = bigEndian word := by
  have bound := bigEndian_lt word
  rw [width] at bound
  have small : bigEndian word < UInt16.size := bound
  rw [word16, UInt16.toNat_ofNat', Nat.mod_eq_of_lt small]

/-- Two bytes are determined by the word that they spell. -/
theorem word16_injective {left right : Bytes} (leftWidth : left.length = 2)
    (rightWidth : right.length = 2) (same : word16 left = word16 right) : left = right := by
  have sameValue := congrArg UInt16.toNat same
  rw [toNat_word16 leftWidth, toNat_word16 rightWidth] at sameValue
  exact bigEndian_injective (leftWidth.trans rightWidth.symm) sameValue

/-- A word that is laid out in full reads back. -/
theorem bigEndian_toBigEndian_of_lt {value : Nat} (small : value < UInt32.size) :
    bigEndian (toBigEndian 4 value) = value := by
  rw [bigEndian_toBigEndian]
  exact Nat.mod_eq_of_lt small

theorem word32_toBigEndian (value : Nat) : word32 (toBigEndian 4 value) = UInt32.ofNat value := by
  rw [word32, bigEndian_toBigEndian]
  exact UInt32.ofNat_mod_size

theorem toBigEndian_word32 {word : Bytes} (width : word.length = 4) :
    toBigEndian 4 (word32 word).toNat = word := by
  have small : bigEndian word < UInt32.size := bigEndian_lt_of_length_eq_four width
  rw [word32, UInt32.toNat_ofNat', Nat.mod_eq_of_lt small, ← width, toBigEndian_bigEndian]

end StoryBundle.Bytes
