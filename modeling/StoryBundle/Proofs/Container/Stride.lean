import StoryBundle.Proofs.Container.Chain

/-!
# How far it is to the next chunk

A machine adds words, and a sum that is too large wraps around to a smaller one. Three sums that are
checked for this one after the other come to the same as one sum without bound that is checked at the
end (`Word.map_nextStart?`), so it does not matter which of them is too large.
-/

namespace StoryBundle

namespace Word

/-- The sum of two words, unless it wraps around. -/
def sum? (left right : UInt64) : Option UInt64 :=
  if left + right < left then none else some (left + right)

/-- Where the chunk after one at `offset` starts, in the arithmetic of words. -/
def nextStart? (offset length : UInt64) : Option UInt64 := do
  let payload ← sum? offset 8
  let padding ← sum? payload length
  sum? padding (length % 2)

theorem add_lt_iff {left right : UInt64} :
    left + right < left ↔ addressLimit ≤ left.toNat + right.toNat := by
  have bounds : left.toNat < 2 ^ 64 ∧ right.toNat < 2 ^ 64 := ⟨left.toNat_lt, right.toNat_lt⟩
  rw [UInt64.lt_iff_toNat_lt, UInt64.toNat_add, addressLimit, UInt64.size]
  omega

/-- A sum of words that does not wrap around is the sum of the addresses. -/
theorem map_sum? (left right : UInt64) :
    (sum? left right).map UInt64.toNat = advance? left.toNat right.toNat := by
  rw [sum?, advance?]
  by_cases small : left.toNat + right.toNat < addressLimit
  · rw [if_neg (add_lt_iff.not.mpr (Nat.not_le_of_lt small)), if_pos small, Option.map_some,
      UInt64.toNat_add]
    exact congrArg some (Nat.mod_eq_of_lt small)
  · rw [if_pos (add_lt_iff.mpr (Nat.le_of_not_lt small)), if_neg small, Option.map_none]

theorem map_bind_sum? (word? : Option UInt64) (distance : UInt64) :
    (word?.bind fun word => sum? word distance).map UInt64.toNat =
      (word?.map UInt64.toNat).bind fun address => advance? address distance.toNat := by
  cases word? with
  | none => rfl
  | some word => exact map_sum? word distance

theorem map_nextStart? (offset length : UInt64) :
    (nextStart? offset length).map UInt64.toNat =
      StoryBundle.nextStart? offset.toNat length.toNat := by
  calc (nextStart? offset length).map UInt64.toNat
    _ = (((sum? offset 8).bind fun payload => sum? payload length).bind fun padding =>
          sum? padding (length % 2)).map UInt64.toNat := by rw [Option.bind_assoc]; rfl
    _ = ((advance? offset.toNat 8).bind fun payload => advance? payload length.toNat).bind
          fun padding => advance? padding (length.toNat % 2) := by
      rw [map_bind_sum?, map_bind_sum?, map_sum?, UInt64.toNat_mod]
      rfl
    _ = StoryBundle.nextStart? offset.toNat length.toNat := by rw [Option.bind_assoc]; rfl

end Word

/-- Where the payload of a chunk at `offset` ends. -/
def payloadEnd (offset length : Nat) : Nat := offset + chunkHeaderSize + length

/-- Where the payload ends together with the byte that is added after an odd length. -/
def paddedEnd (offset length : Nat) : Nat := payloadEnd offset length + length % 2

/-- The next start is the padded end if that is below the limit of a machine, and otherwise there is
none, whichever of the three sums it is that goes over the limit. It lies past the header, keeps the
parity of the place and leaves at most one byte behind the payload. Words that are added in turn, each
sum checked, give the same. -/
theorem nextStart?_exact (offset length : UInt64) :
    (∀ next, nextStart? offset.toNat length.toNat = some next ↔
      paddedEnd offset.toNat length.toNat < 2 ^ 64 ∧ next = paddedEnd offset.toNat length.toNat) ∧
    (nextStart? offset.toNat length.toNat = none ↔
      2 ^ 64 ≤ offset.toNat + chunkHeaderSize ∨
      offset.toNat + chunkHeaderSize < 2 ^ 64 ∧ 2 ^ 64 ≤ payloadEnd offset.toNat length.toNat ∨
      payloadEnd offset.toNat length.toNat < 2 ^ 64 ∧
        2 ^ 64 ≤ paddedEnd offset.toNat length.toNat) ∧
    (∀ next, nextStart? offset.toNat length.toNat = some next →
      offset.toNat + chunkHeaderSize ≤ next ∧ next % 2 = offset.toNat % 2 ∧
      (next = payloadEnd offset.toNat length.toNat ∨
        next = payloadEnd offset.toNat length.toNat + 1)) ∧
    (Word.nextStart? offset length).map UInt64.toNat = nextStart? offset.toNat length.toNat := by
  have limit : addressLimit = 2 ^ 64 := rfl
  have header : chunkHeaderSize = 8 := rfl
  unfold paddedEnd payloadEnd
  refine ⟨fun next => ?_, ?_, fun next found => ?_, Word.map_nextStart? offset length⟩
  · rw [nextStart?_eq_some_iff, limit]
    constructor
    · rintro ⟨rfl, small⟩
      exact ⟨small, rfl⟩
    · rintro ⟨small, rfl⟩
      exact ⟨rfl, small⟩
  · rw [nextStart?_eq_none_iff, limit]
    omega
  · obtain ⟨rfl, _⟩ := nextStart?_eq_some_iff.mp found
    omega

/-- Near the limit an even length still fits, and an odd one fails for its padding alone. -/
theorem nextStart?_exact_sample :
    nextStart? (2 ^ 64 - 16) 6 = some (2 ^ 64 - 2) ∧ (2 ^ 64 - 2) % 2 = (2 ^ 64 - 16) % 2 ∧
      nextStart? (2 ^ 64 - 16) 7 = none := by
  obtain ⟨even, _, parity, _⟩ := nextStart?_exact (UInt64.ofNat (2 ^ 64 - 16)) 6
  obtain ⟨_, odd, _⟩ := nextStart?_exact (UInt64.ofNat (2 ^ 64 - 16)) 7
  have found := (even (2 ^ 64 - 2)).mpr (by decide)
  exact ⟨found, (parity _ found).2.1, odd.mpr (by decide)⟩

end StoryBundle
