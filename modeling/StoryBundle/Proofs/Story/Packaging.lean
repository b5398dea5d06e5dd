import Mathlib.Data.List.Forall2
import StoryBundle.Story.Packaging

/-!
# What the front of a file shows

The packaging of a file hangs on three marks and on its first byte. A mark stands at a place if the
bytes there are its letters, each of them capital or small (`Bytes.MarkedAt`). No two of the signs at
the very front go together, so the order in which they are looked for does not matter, and each
verdict is told by the signs alone (`detect_eq_ok_bare_iff`, `detect_eq_ok_wrapped_iff`,
`detect_eq_error_iff`).
-/

namespace StoryBundle

namespace Bytes

/-- A letter that a mark is made of. -/
def IsCapital (byte : UInt8) : Prop := 0x41 ≤ byte ∧ byte ≤ 0x5A

instance (byte : UInt8) : Decidable (IsCapital byte) := by
  unfold IsCapital
  infer_instance

/-- The bytes are the letters of a mark, each of them capital or small. -/
def InAnyCase (bytes mark : Bytes) : Prop :=
  List.Forall₂ (fun byte letter => byte = letter ∨ byte = letter + 0x20) bytes mark

instance (bytes mark : Bytes) : Decidable (InAnyCase bytes mark) := by
  unfold InAnyCase
  infer_instance

/-- A mark stands at a place. Where bytes are missing there is none. -/
def MarkedAt (data : Bytes) (place : Nat) (mark : Bytes) : Prop :=
  InAnyCase ((data.drop place).take mark.length) mark

instance (data : Bytes) (place : Nat) (mark : Bytes) : Decidable (MarkedAt data place mark) := by
  unfold MarkedAt
  infer_instance

theorem lowerAscii_eq_iff {byte letter : UInt8} (capital : IsCapital letter) :
    lowerAscii byte = lowerAscii letter ↔ byte = letter ∨ byte = letter + 0x20 := by
  obtain ⟨low, high⟩ := capital
  have lowered : lowerAscii letter = letter + 0x20 := if_pos ⟨low, high⟩
  rw [lowered, lowerAscii]
  split
  all_goals
    simp only [UInt8.le_iff_toNat_le, ← UInt8.toNat_inj, UInt8.toNat_add, UInt8.reduceToNat] at *
    omega

theorem sameIgnoringCase_iff {bytes mark : Bytes} (capitals : ∀ letter ∈ mark, IsCapital letter) :
    sameIgnoringCase bytes mark = true ↔ InAnyCase bytes mark := by
  rw [sameIgnoringCase, beq_iff_eq, InAnyCase]
  induction mark generalizing bytes with
  | nil => rw [List.forall₂_nil_right_iff, List.map_nil, List.map_eq_nil_iff]
  | cons letter rest ih =>
    cases bytes with
    | nil => simp [List.forall₂_nil_left_iff]
    | cons byte more =>
      rw [List.map_cons, List.map_cons, List.cons.injEq, List.forall₂_cons,
        lowerAscii_eq_iff (capitals letter List.mem_cons_self),
        ih fun other member => capitals other (List.mem_cons_of_mem _ member)]

/-- A file with a mark at its front starts with the first letter of the mark. -/
theorem MarkedAt.head {data mark : Bytes} {letter : UInt8}
    (marked : MarkedAt data 0 (letter :: mark)) :
    ∃ byte rest, data = byte :: rest ∧ (byte = letter ∨ byte = letter + 0x20) := by
  cases data with
  | nil => cases marked
  | cons byte rest =>
    obtain ⟨first, _⟩ := List.forall₂_cons.mp marked
    exact ⟨byte, rest, rfl, first⟩

end Bytes

namespace Packaging

open Bytes (MarkedAt)

variable {data : Bytes}

/-- The first byte is a version of the Z-machine. -/
def Versioned (data : Bytes) : Prop := ∃ version rest, data = version :: rest ∧ 1 ≤ version ∧ version ≤ 8

theorem any_isVersion_iff : data.head?.any isVersion = true ↔ Versioned data := by
  cases data <;> simp [Versioned, isVersion]

instance (data : Bytes) : Decidable (Versioned data) := decidable_of_iff _ any_isVersion_iff

/-- Both marks of a container are there. -/
structure Enclosing (data : Bytes) : Prop where
  form : MarkedAt data 0 formMark
  type : MarkedAt data 8 resourceMark

/-- Why a file is no program, told by what stands at its front. -/
inductive Refusal (data : Bytes) : DecodeError → Prop
  | glulx : MarkedAt data 0 glulxMark → Refusal data .glulxProgram
  /-- The type is reported with zeros where bytes are missing. -/
  | foreign : MarkedAt data 0 formMark → ¬ MarkedAt data 8 resourceMark →
      Refusal data (.foreignContainer
        ⟨data.getD 8 0, data.getD 9 0, data.getD 10 0, data.getD 11 0⟩)
  | unknown : ¬ MarkedAt data 0 glulxMark → ¬ MarkedAt data 0 formMark → ¬ Versioned data →
      Refusal data (.unknownShape (data.take 4))

/-! ## Signs that exclude each other -/

theorem Versioned.not_markedAt {letter : UInt8} (versioned : Versioned data)
    (capital : Bytes.IsCapital letter) (mark : Bytes) : ¬ MarkedAt data 0 (letter :: mark) := by
  intro marked
  obtain ⟨version, _, rfl, _, small⟩ := versioned
  obtain ⟨byte, _, same, spelled⟩ := marked.head
  obtain ⟨rfl, _⟩ := List.cons.inj same
  obtain ⟨low, high⟩ := capital
  simp only [UInt8.le_iff_toNat_le, ← UInt8.toNat_inj, UInt8.toNat_add, UInt8.reduceToNat] at *
  omega

theorem not_glulx_of_form (form : MarkedAt data 0 formMark) : ¬ MarkedAt data 0 glulxMark := by
  intro glulx
  obtain ⟨byte, rest, rfl, small⟩ := form.head
  obtain ⟨other, _, same, otherSmall⟩ := glulx.head
  obtain ⟨rfl, _⟩ := List.cons.inj same
  rcases small with rfl | rfl <;> revert otherSmall <;> decide

/-! ## Verdicts -/

/-- The first four bytes from the place of the type, with zeros where bytes are missing. -/
theorem ofBytes_type (data : Bytes) : Tag.ofBytes ((data.drop 8).take 4) =
    ⟨data.getD 8 0, data.getD 9 0, data.getD 10 0, data.getD 11 0⟩ := by
  simp [Tag.ofBytes, List.getD_eq_getElem?_getD]

theorem detect_eq (data : Bytes) :
    detect data =
      if MarkedAt data 0 glulxMark then .error .glulxProgram
      else if MarkedAt data 0 formMark then
        if MarkedAt data 8 resourceMark then .ok wrapped
        else .error (.foreignContainer
          ⟨data.getD 8 0, data.getD 9 0, data.getD 10 0, data.getD 11 0⟩)
      else if Versioned data then .ok bare
      else .error (.unknownShape (data.take 4)) := by
  have glulx : Bytes.sameIgnoringCase (data.take 4) glulxMark = true ↔ MarkedAt data 0 glulxMark :=
    Bytes.sameIgnoringCase_iff (by simp [glulxMark, Bytes.IsCapital])
  have form : Bytes.sameIgnoringCase (data.take 4) formMark = true ↔ MarkedAt data 0 formMark :=
    Bytes.sameIgnoringCase_iff (by simp [formMark, Bytes.IsCapital])
  have type : Bytes.sameIgnoringCase ((data.drop 8).take 4) resourceMark = true ↔
      MarkedAt data 8 resourceMark :=
    Bytes.sameIgnoringCase_iff (by simp [resourceMark, Bytes.IsCapital])
  simp only [detect, glulx, form, type, any_isVersion_iff, ofBytes_type]

theorem detect_of_versioned (versioned : Versioned data) : detect data = .ok .bare := by
  have noGlulx : ¬ MarkedAt data 0 glulxMark := versioned.not_markedAt (by decide) _
  have noForm : ¬ MarkedAt data 0 formMark := versioned.not_markedAt (by decide) _
  rw [detect_eq, if_neg noGlulx, if_neg noForm, if_pos versioned]

theorem detect_of_enclosing (enclosing : Enclosing data) : detect data = .ok .wrapped := by
  obtain ⟨form, type⟩ := enclosing
  rw [detect_eq, if_neg (not_glulx_of_form form), if_pos form, if_pos type]

theorem detect_of_refusal {cause : DecodeError} (refused : Refusal data cause) :
    detect data = .error cause := by
  rw [detect_eq]
  cases refused with
  | glulx glulx => rw [if_pos glulx]
  | foreign form foreign => rw [if_neg (not_glulx_of_form form), if_pos form, if_neg foreign]
  | unknown noGlulx noForm unversioned => rw [if_neg noGlulx, if_neg noForm, if_neg unversioned]

/-- There is no fourth kind of front. -/
theorem versioned_or_enclosing_or_refusal (data : Bytes) :
    Versioned data ∨ Enclosing data ∨ ∃ cause, Refusal data cause := by
  by_cases glulx : MarkedAt data 0 glulxMark
  · exact .inr (.inr ⟨_, .glulx glulx⟩)
  · by_cases form : MarkedAt data 0 formMark
    · by_cases type : MarkedAt data 8 resourceMark
      · exact .inr (.inl ⟨form, type⟩)
      · exact .inr (.inr ⟨_, .foreign form type⟩)
    · by_cases versioned : Versioned data
      · exact .inl versioned
      · exact .inr (.inr ⟨_, .unknown glulx form versioned⟩)

theorem detect_eq_ok_bare_iff : detect data = .ok .bare ↔ Versioned data := by
  refine ⟨fun shown => ?_, detect_of_versioned⟩
  rcases versioned_or_enclosing_or_refusal data with versioned | enclosing | ⟨cause, refused⟩
  · exact versioned
  · cases (detect_of_enclosing enclosing).symm.trans shown
  · cases (detect_of_refusal refused).symm.trans shown

theorem detect_eq_ok_wrapped_iff : detect data = .ok .wrapped ↔ Enclosing data := by
  refine ⟨fun shown => ?_, detect_of_enclosing⟩
  rcases versioned_or_enclosing_or_refusal data with versioned | enclosing | ⟨cause, refused⟩
  · cases (detect_of_versioned versioned).symm.trans shown
  · exact enclosing
  · cases (detect_of_refusal refused).symm.trans shown

theorem detect_eq_error_iff {cause : DecodeError} :
    detect data = .error cause ↔ Refusal data cause := by
  refine ⟨fun shown => ?_, detect_of_refusal⟩
  rcases versioned_or_enclosing_or_refusal data with versioned | enclosing | ⟨other, refused⟩
  · cases (detect_of_versioned versioned).symm.trans shown
  · cases (detect_of_enclosing enclosing).symm.trans shown
  · cases (detect_of_refusal refused).symm.trans shown
    exact refused

end Packaging
end StoryBundle
