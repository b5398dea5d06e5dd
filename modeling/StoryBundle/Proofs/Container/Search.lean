import Mathlib.Algebra.Group.Nat.Even
import Mathlib.Order.Bounds.Basic
import Mathlib.Order.Nat
import StoryBundle.Container.Layout
import StoryBundle.Proofs.Container.Chain
import StoryBundle.Proofs.Container.Executable

/-!
# What a search finds

The places where chunks start are those to which the lengths lead from the first one (`Leads`). They
only lead forward, so the chain is short (`length_chain_le`), and what a search finds is the least of
these places that has the tag (`locate?_isLeast`).
-/

namespace StoryBundle

/-- `Leads data place target`: from a start at `place` the lengths lead to a start at `target`,
whether or not the file has bytes there. -/
inductive Leads (data : Bytes) : Nat → Nat → Prop
  | here {place : Nat} : Leads data place place
  | onward {place target : Nat} {word : Bytes} :
      data.slice? (place + 4) 4 = some word →
      Leads data (place + chunkHeaderSize + Bytes.bigEndian word + Bytes.bigEndian word % 2) target →
      Leads data place target

/-- A start with the tag, to which the lengths lead from `place`. -/
def Leads.Tagged (data : Bytes) (tag : Tag) (place target : Nat) : Prop :=
  Leads data place target ∧ data.slice? target 4 = some tag.toBytes

/-- The chunks that are read one after the other from a place on. A chunk that is not there in full
ends the walk. -/
def Chunk.readFrom (data : Bytes) (place : Nat) : List Chunk :=
  match _ : Chunk.read data place with
  | .error _ => []
  | .ok chunk =>
    chunk ::
      match _ : nextStart? place chunk.payload.length with
      | some next => readFrom data next
      | none => []
termination_by data.length - place
decreasing_by
  obtain ⟨header, _, started, _⟩ := Chunk.read_eq_ok_iff.mp ‹Chunk.read data place = .ok chunk›
  obtain ⟨forward, _⟩ := nextStart?_eq_some_iff.mp ‹nextStart? place _ = some next›
  have inside := (Bytes.slice?_eq_some_iff.mp started).1
  rw [chunkHeaderSize] at forward inside
  omega

namespace Leads

variable {data : Bytes} {tag : Tag} {place target : Nat}

theorem le (leads : Leads data place target) : place ≤ target := by
  induction leads with
  | here => exact Nat.le_refl _
  | onward _ _ ih => omega

/-- Headers are even and payloads are padded, so the parity of a place stays. -/
theorem mod_two_eq (leads : Leads data place target) : target % 2 = place % 2 := by
  induction leads with
  | here => rfl
  | onward _ _ ih =>
    rw [ih, chunkHeaderSize]
    omega

theorem Tagged.isLeast (tagged : data.slice? place 4 = some tag.toBytes) :
    IsLeast {target | Tagged data tag place target} place :=
  ⟨⟨.here, tagged⟩, fun _ ⟨leads, _⟩ => leads.le⟩

theorem Tagged.lt_length (found : Tagged data tag place target) : place < data.length := by
  have ahead := found.1.le
  have inside := (Bytes.slice?_eq_some_iff.mp found.2).1
  omega

/-- Without the tag at a place the search goes on at the next one. -/
theorem tagged_iff {word : Bytes} (other : data.slice? place 4 ≠ some tag.toBytes)
    (counted : data.slice? (place + 4) 4 = some word) :
    Tagged data tag place target ↔ Tagged data tag
      (place + chunkHeaderSize + Bytes.bigEndian word + Bytes.bigEndian word % 2) target := by
  constructor
  · rintro ⟨leads, tagged⟩
    cases leads with
    | here => exact absurd tagged other
    | onward alsoCounted leads =>
      rw [counted, Option.some.injEq] at alsoCounted
      subst alsoCounted
      exact ⟨leads, tagged⟩
  · rintro ⟨leads, tagged⟩
    exact ⟨.onward counted leads, tagged⟩

theorem not_tagged_of_absent (absent : data.slice? place 4 = none) : ¬ Tagged data tag place target := by
  intro found
  have ahead := found.1.le
  have short := Bytes.slice?_eq_none_iff.mp absent
  have inside := (Bytes.slice?_eq_some_iff.mp found.2).1
  omega

theorem not_tagged_of_cut (other : data.slice? place 4 ≠ some tag.toBytes)
    (cut : data.slice? (place + 4) 4 = none) : ¬ Tagged data tag place target := by
  rintro ⟨leads, tagged⟩
  cases leads with
  | here => exact other tagged
  | onward counted _ =>
    rw [cut] at counted
    cases counted

end Leads

section

open Leads

variable {data : Bytes} (addressed : data.length ≤ addressLimit)

include addressed

/-- A search finds the least of the places that have the tag. -/
theorem locateFrom?_eq_some_iff (tag : Tag) (place target : Nat) :
    locateFrom? data tag place = some target ↔
      IsLeast {target | Tagged data tag place target} target := by
  have nothing (untagged : ∀ target, ¬ Tagged data tag place target) :
      none = some target ↔ IsLeast {target | Tagged data tag place target} target :=
    ⟨nofun, fun least => absurd least.1 (untagged target)⟩
  rw [locateFrom?_eq]
  cases started : data.slice? place 4 with
  | none => exact nothing fun _ => not_tagged_of_absent started
  | some mark =>
    dsimp only
    split
    next same =>
      rw [same] at started
      rw [Option.some.injEq]
      constructor
      · rintro rfl
        exact Tagged.isLeast started
      · exact (Tagged.isLeast started).unique
    next different =>
      have other : data.slice? place 4 ≠ some tag.toBytes := by
        rw [started]
        exact fun spelled => different (Option.some.inj spelled)
      cases counted : data.slice? (place + 4) 4 with
      | none => exact nothing fun _ => not_tagged_of_cut other counted
      | some word =>
        have onward (target : Nat) := @tagged_iff data tag place target word other counted
        dsimp only
        cases step : nextStart? place (Bytes.bigEndian word) with
        | none =>
          refine nothing fun target found => ?_
          have beyond := nextStart?_eq_none_iff.mp step
          have inside := ((onward target).mp found).lt_length
          omega
        | some next =>
          obtain ⟨rfl, _⟩ := nextStart?_eq_some_iff.mp step
          simp only [Option.bind_some, onward]
          exact locateFrom?_eq_some_iff tag _ target
termination_by data.length - place
decreasing_by
  have inside := (Bytes.slice?_eq_some_iff.mp counted).1
  rw [chunkHeaderSize]
  omega

end

/-- Each start takes the room of a header, except that the last one may be a tag. -/
theorem length_startsFrom_le (position : Nat) (rest : Bytes) :
    chunkHeaderSize * (startsFrom position rest).length ≤ rest.length + 4 := by
  induction position, rest using startsFrom.induct with
  | case1 position a b c d l₀ l₁ l₂ l₃ more length ih =>
    change _ * (startsFrom position (Tag.toBytes ⟨a, b, c, d⟩ ++ ([l₀, l₁, l₂, l₃] ++ more))).length ≤
      more.length + 8 + 4
    rw [startsFrom_header rfl, List.length_cons, chunkHeaderSize]
    cases step : nextStart? position length with
    | none =>
      change 8 * (0 + 1) ≤ _
      omega
    | some next =>
      change 8 * ((startsFrom next (more.drop (length + length % 2))).length + 1) ≤ _
      have later := ih next
      rw [List.length_drop, chunkHeaderSize] at later
      omega
  | case2 position a b c d rest short =>
    rw [startsFrom]
    · simp only [List.length_cons, List.length_nil, chunkHeaderSize]
      omega
    · exact short
  | case3 position rest noHeader noTag =>
    rw [startsFrom]
    · exact Nat.zero_le _
    · exact noHeader
    · exact noTag

theorem length_chain_le (data : Bytes) : chunkHeaderSize * (chain data).length ≤ data.length := by
  have bound := length_startsFrom_le firstChunk (data.drop firstChunk)
  rw [List.length_drop, chunkHeaderSize, firstChunk] at bound
  rw [chain, chunkHeaderSize, firstChunk]
  omega

/-- A chunk that is read starts with its tag and the length of its payload. -/
theorem Chunk.start_of_read {data : Bytes} {place : Nat} {chunk : Chunk}
    (present : Chunk.read data place = .ok chunk) :
    chunk.offset = place ∧ data.slice? place 4 = some chunk.tag.toBytes ∧
      ∃ word, data.slice? (place + 4) 4 = some word ∧ Bytes.bigEndian word = chunk.payload.length := by
  have enough : place + chunkHeaderSize ≤ data.length := by
    by_contra short
    cases (Chunk.read_of_short (Nat.lt_of_not_le short)).symm.trans present
  obtain ⟨tag, word, tagged, counted⟩ := Chunk.exists_header enough
  rw [Chunk.read_of_header tagged counted, Except.map_eq_ok_iff] at present
  obtain ⟨payload, held, rfl⟩ := present
  exact ⟨rfl, tagged, word, counted, (Region.length_of_read held).symm⟩

theorem Chunk.readFrom_of_read {data : Bytes} {place : Nat} {chunk : Chunk}
    (present : Chunk.read data place = .ok chunk) :
    readFrom data place = chunk ::
      match nextStart? place chunk.payload.length with
      | some next => readFrom data next
      | none => [] := by
  rw [readFrom]
  split
  next failed =>
    rw [present] at failed
    cases failed
  next again =>
    rw [present] at again
    cases again
    -- The two sides differ only in what the definition remembers for its termination.
    split <;> simp_all

/-- Reading one chunk after the other comes to the least place with the tag, if every chunk on the way
is there in full. -/
theorem Chunk.find?_readFrom {data : Bytes} (addressed : data.length ≤ addressLimit) {tag : Tag}
    {place target : Nat} (least : IsLeast {target | Leads.Tagged data tag place target} target)
    (present : ∀ start ≤ target, Leads data place start → ∃ chunk, Chunk.read data start = .ok chunk) :
    ((Chunk.readFrom data place).find? (·.tag == tag)).map Chunk.offset = some target := by
  have found : Leads.Tagged data tag place target := least.1
  obtain ⟨chunk, read⟩ := present place found.1.le .here
  obtain ⟨offset, tagged, word, counted, length⟩ := Chunk.start_of_read read
  rw [Chunk.readFrom_of_read read]
  by_cases same : chunk.tag = tag
  · subst same
    rw [List.find?_cons, beq_self_eq_true, Option.map_some, offset]
    exact congrArg some ((Leads.Tagged.isLeast tagged).unique least)
  · have other : data.slice? place 4 ≠ some tag.toBytes := by
      rw [tagged]
      exact fun spelled => same (Tag.toBytes_injective (Option.some.inj spelled))
    have onward (target : Nat) := @Leads.tagged_iff data tag place target word other counted
    have inside := ((onward target).mp found).lt_length
    have step : nextStart? place (Bytes.bigEndian word) = some
        (place + chunkHeaderSize + Bytes.bigEndian word + Bytes.bigEndian word % 2) :=
      nextStart?_eq_some_iff.mpr ⟨rfl, by omega⟩
    have passed : (chunk.tag == tag) = false := beq_eq_false_iff_ne.mpr same
    rw [List.find?_cons, passed, ← length, step]
    simp only [onward] at least
    exact Chunk.find?_readFrom addressed least fun start near leads =>
      present start near (.onward counted leads)
termination_by data.length - place
decreasing_by
  have inside := (Bytes.slice?_eq_some_iff.mp counted).1
  rw [chunkHeaderSize]
  omega

/-- A search looks at no more starts than there is room for. It finds the least of the places to which
the lengths lead from the first chunk and which have the tag, and nothing if none has it. Such a place
is even and lies past the form header, and reading one chunk after the other finds it too if the
chunks up to it are there in full. All this is for files whose bytes have addresses. -/
theorem locate?_isLeast {data : Bytes} (addressed : data.length ≤ addressLimit) (tag : Tag) :
    chunkHeaderSize * (chain data).length ≤ data.length ∧
      (∀ place, locate? data tag = some place ↔
        IsLeast {place | Leads data firstChunk place ∧ data.slice? place 4 = some tag.toBytes} place) ∧
      (locate? data tag = none ↔
        ∀ place, Leads data firstChunk place → data.slice? place 4 ≠ some tag.toBytes) ∧
      ∀ place, locate? data tag = some place →
        Even place ∧ firstChunk ≤ place ∧
        ((∀ start ≤ place, Leads data firstChunk start → ∃ chunk, Chunk.read data start = .ok chunk) →
          ((Chunk.readFrom data firstChunk).find? (·.tag == tag)).map Chunk.offset = some place) := by
  have exactly (place : Nat) :
      locate? data tag = some place ↔ IsLeast {place | Leads.Tagged data tag firstChunk place} place :=
    locateFrom?_eq_some_iff addressed tag firstChunk place
  refine ⟨length_chain_le data, exactly, ?_, ?_⟩
  · constructor
    · intro missed place leads tagged
      classical
      have least := Nat.isLeast_find (p := Leads.Tagged data tag firstChunk) ⟨place, leads, tagged⟩
      exact absurd ((exactly _).mpr least) (missed ▸ Option.some_ne_none _).symm
    · intro untagged
      rw [Option.eq_none_iff_forall_ne_some]
      intro place found
      obtain ⟨⟨leads, tagged⟩, _⟩ := (exactly place).mp found
      exact untagged place leads tagged
  · intro place found
    have least := (exactly place).mp found
    have leads : Leads data firstChunk place := least.1.1
    exact ⟨Nat.even_iff.mpr leads.mod_two_eq, leads.le, Chunk.find?_readFrom addressed least⟩

/-- The tag in the payload of the first chunk, which has an odd length, under the second one and alone
at the end. -/
def searchedSample : Bytes :=
  List.replicate 12 0 ++ (Layout.Piece.bytes ⟨⟨0x41, 0x41, 0x41, 0x41⟩, 0 :: Tag.zcode.toBytes⟩ ++
    (Layout.Piece.bytes ⟨Tag.zcode, [7]⟩ ++ Tag.zcode.toBytes))

theorem locate?_isLeast_sample :
    searchedSample.length ≤ addressLimit ∧
      IsLeast {place | Leads searchedSample firstChunk place ∧
        searchedSample.slice? place 4 = some Tag.zcode.toBytes} 26 ∧
      (∀ start ≤ 26, Leads searchedSample firstChunk start →
        ∃ chunk, Chunk.read searchedSample start = .ok chunk) ∧
      ((Chunk.readFrom searchedSample firstChunk).find? (·.tag == Tag.zcode)).map Chunk.offset =
        some 26 := by
  have addressed : searchedSample.length ≤ addressLimit := by decide
  have found : locate? searchedSample Tag.zcode = some 26 := by decide +kernel
  have present : ∀ start ≤ 26, Leads searchedSample firstChunk start →
      ∃ chunk, Chunk.read searchedSample start = .ok chunk := by
    intro start near leads
    cases leads with
    | here => exact ⟨⟨12, ⟨0x41, 0x41, 0x41, 0x41⟩, 0 :: Tag.zcode.toBytes⟩, by decide +kernel⟩
    | onward counted leads =>
      have word : searchedSample.slice? (firstChunk + 4) 4 = some [0, 0, 0, 5] := by decide +kernel
      obtain rfl := Option.some.inj (word.symm.trans counted)
      obtain rfl : 26 = start := Nat.le_antisymm leads.le near
      exact ⟨⟨26, Tag.zcode, [7]⟩, by decide +kernel⟩
  obtain ⟨_, least, _, sound⟩ := locate?_isLeast addressed Tag.zcode
  exact ⟨addressed, (least 26).mp found, present, (sound 26 found).2.2 present⟩

end StoryBundle
