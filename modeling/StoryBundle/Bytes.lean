/-!
# Byte strings

Byte strings are lists, the form in which a decoder and its layout can be compared. Numbers in
them are big-endian. `bigEndian_toBigEndian` says that a number laid out is the number read back,
and `slice?_eq_some_iff` says which slices a byte string has.
-/

namespace StoryBundle

abbrev Bytes := List UInt8

namespace Bytes

/-- The number whose base-256 digits are the bytes, most significant first. -/
def bigEndian (bytes : Bytes) : Nat :=
  bytes.foldl (fun value byte => value * 256 + byte.toNat) 0

/-- The low `width` base-256 digits of a number, most significant first. -/
def toBigEndian : Nat → Nat → Bytes
  | 0, _ => []
  | width + 1, value => toBigEndian width (value / 256) ++ [UInt8.ofNat (value % 256)]

/-- How many numbers there are with a given number of base-256 digits. -/
def span : Nat → Nat
  | 0 => 1
  | width + 1 => 256 * span width

def word8 (bytes : Bytes) : UInt8 := UInt8.ofNat (bigEndian bytes)
def word16 (bytes : Bytes) : UInt16 := UInt16.ofNat (bigEndian bytes)
def word32 (bytes : Bytes) : UInt32 := UInt32.ofNat (bigEndian bytes)

/-- The `needed` bytes that start at `offset`, if all of them are there. -/
def slice? (data : Bytes) (offset needed : Nat) : Option Bytes :=
  if offset + needed ≤ data.length then some ((data.drop offset).take needed) else none

/-- ASCII capitals become small letters and every other byte stays. -/
def lowerAscii (byte : UInt8) : UInt8 :=
  if 0x41 ≤ byte ∧ byte ≤ 0x5A then byte + 0x20 else byte

/-- Two byte strings agree up to the case of ASCII letters. -/
def sameIgnoringCase (left right : Bytes) : Bool :=
  left.map lowerAscii == right.map lowerAscii

theorem bigEndian_append_byte (bytes : Bytes) (byte : UInt8) :
    bigEndian (bytes ++ [byte]) = bigEndian bytes * 256 + byte.toNat := by
  simp [bigEndian, List.foldl_append]

@[simp] theorem length_toBigEndian (width value : Nat) :
    (toBigEndian width value).length = width := by
  induction width generalizing value with
  | zero => rfl
  | succ width ih => simp [toBigEndian, ih]

/-- A number laid out reads back as its low `width` digits. -/
theorem bigEndian_toBigEndian (width value : Nat) :
    bigEndian (toBigEndian width value) = value % span width := by
  induction width generalizing value with
  | zero => simp [toBigEndian, bigEndian, span, Nat.mod_one]
  | succ width ih =>
    have digit : (UInt8.ofNat (value % 256)).toNat = value % 256 := by simp
    rw [toBigEndian, bigEndian_append_byte, ih, digit, span, Nat.mod_mul]
    omega

theorem slice?_eq_some_iff {data piece : Bytes} {offset needed : Nat} :
    slice? data offset needed = some piece ↔
      offset + needed ≤ data.length ∧ (data.drop offset).take needed = piece := by
  simp [slice?]

theorem slice?_eq_none_iff {data : Bytes} {offset needed : Nat} :
    slice? data offset needed = none ↔ data.length < offset + needed := by
  simp [slice?]

theorem length_of_slice? {data piece : Bytes} {offset needed : Nat}
    (present : slice? data offset needed = some piece) : piece.length = needed := by
  obtain ⟨enough, rfl⟩ := slice?_eq_some_iff.mp present
  simp
  omega

end Bytes
end StoryBundle
