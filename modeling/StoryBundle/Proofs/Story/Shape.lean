import StoryBundle.Proofs.Container.Cut
import StoryBundle.Proofs.Container.Executable
import StoryBundle.Proofs.Container.Listing
import StoryBundle.Proofs.Story.Basic
import StoryBundle.Proofs.Story.Packaging

/-!
# The two shapes of a program file

A program file is a bare story or a container around one. `Shape` says what is loaded from each and
`Refusal` why any other file is turned away, stage by stage, both by the bytes that stand in the file.
Loading answers exactly that (`ofBytes_shapes`), and the front of the file alone settles the errors
that are about its front.
-/

namespace StoryBundle.Story

open Bytes (MarkedAt)
open Packaging (Versioned Enclosing glulxMark formMark resourceMark)

variable {path : Path} {data : Bytes}

/-- What is loaded from a program file. -/
inductive Shape (path : Path) (data : Bytes) : LoadedStory → Prop
  /-- The whole file is the story. -/
  | bare : Versioned data → Shape path data ⟨⟨path, .bare, data⟩, none⟩
  /-- The story is the payload of the chunk to which the container's entry for program 0 points. -/
  | wrapped {container : Container} {start : UInt32} {word image : Bytes} :
      MarkedAt data 0 formMark → MarkedAt data 8 resourceMark →
      (Container.decode data none).outcome = .ok container → container.data = data →
      ⟨Tag.executable, 0, start⟩ ∈ container.index →
      data.slice? start.toNat 4 = some Tag.zcode.toBytes →
      data.slice? (start.toNat + 4) 4 = some word →
      data.slice? (start.toNat + 8) (Bytes.bigEndian word) = some image →
      Shape path data ⟨⟨path, .wrapped, image⟩, some container⟩

/-- Why a file is not loaded: for what shows at its front, as a container, or for the program in it. -/
inductive Refusal (data : Bytes) : DecodeError → Prop
  | front {cause : DecodeError} : Packaging.Refusal data cause → Refusal data cause
  | container {cause : DecodeError} : Enclosing data →
      (Container.decode data none).outcome = .error cause → Refusal data cause
  | program {container : Container} {cause : DecodeError} : Enclosing data →
      (Container.decode data none).outcome = .ok container → container.data = data →
      container.Lacks 0 cause → Refusal data cause

theorem data_of_decode {reference : Option Bytes} {container : Container}
    (decoded : (Container.decode data reference).outcome = .ok container) : container.data = data := by
  obtain ⟨_, _, _, _, _, same, _⟩ := Container.decode_eq_ok_iff.mp decoded
  exact same

theorem start?_eq_some_iff_mem_of_decode {reference : Option Bytes} {container : Container}
    (decoded : (Container.decode data reference).outcome = .ok container) {start : Nat} :
    container.start? Tag.executable 0 = some start ↔
      ∃ word : UInt32, ⟨Tag.executable, 0, word⟩ ∈ container.index ∧ word.toNat = start := by
  obtain ⟨_, _, lists⟩ := Container.exists_rowsIn_of_decode decoded
  exact lists.start?_eq_some_iff_mem

theorem ofBytes_eq_ok_iff_shape {loaded : LoadedStory} :
    (ofBytes path data).outcome = .ok loaded ↔ Shape path data loaded := by
  rw [ofBytes_eq_ok_iff, Packaging.detect_eq_ok_bare_iff, Packaging.detect_eq_ok_wrapped_iff]
  constructor
  · rintro (⟨versioned, rfl⟩ | ⟨⟨form, type⟩, container, image, decoded, executable, rfl⟩)
    · exact .bare versioned
    · obtain rfl := data_of_decode decoded
      obtain ⟨_, word, indexed, tagged, counted, present⟩ :=
        Container.executable_eq_ok_iff_holds.mp executable
      obtain ⟨start, listed, rfl⟩ := (start?_eq_some_iff_mem_of_decode decoded).mp indexed
      exact .wrapped form type decoded rfl listed tagged counted present
  · rintro (versioned | ⟨form, type, decoded, rfl, listed, tagged, counted, present⟩)
    · exact .inl ⟨versioned, rfl⟩
    · have indexed := (start?_eq_some_iff_mem_of_decode decoded).mpr ⟨_, listed, rfl⟩
      exact .inr ⟨⟨form, type⟩, _, _, decoded, Container.executable_eq_ok_iff_holds.mpr
        ⟨_, _, indexed, tagged, counted, present⟩, rfl⟩

theorem ofBytes_eq_error_iff_refusal {cause : DecodeError} :
    (ofBytes path data).outcome = .error cause ↔ Refusal data cause := by
  rw [ofBytes_eq_error_iff, Packaging.detect_eq_error_iff, Packaging.detect_eq_ok_wrapped_iff]
  constructor
  · rintro (shown | ⟨enclosing, failed | ⟨container, decoded, failed⟩⟩)
    · exact .front shown
    · exact .container enclosing failed
    · exact .program enclosing decoded (data_of_decode decoded)
        (Container.executable_eq_error_iff.mp failed)
  · rintro (shown | ⟨enclosing, failed⟩ | ⟨enclosing, decoded, _, lacks⟩)
    · exact .inl shown
    · exact .inr ⟨enclosing, .inl failed⟩
    · exact .inr ⟨enclosing, .inr ⟨_, decoded, Container.executable_eq_error_iff.mpr lacks⟩⟩

/-- An error that is about the front of a file. -/
def AboutFront : DecodeError → Prop
  | .glulxProgram | .foreignContainer _ | .unknownShape _ => True
  | _ => False

/-- No later stage reports what the front shows. -/
theorem Refusal.front_of_aboutFront {cause : DecodeError} (refused : Refusal data cause)
    (about : AboutFront cause) : Packaging.Refusal data cause := by
  cases refused with
  | front shown => exact shown
  | container _ failed =>
    rcases Container.decode_none_eq_error failed with rfl | ⟨_, _, _, rfl⟩
    · exact about.elim
    · exact about.elim
  | program _ _ _ lacks => cases lacks <;> exact about.elim

theorem ofBytes_eq_error_iff_front (cause : DecodeError) (about : AboutFront cause) :
    (ofBytes path data).outcome = .error cause ↔ Packaging.Refusal data cause :=
  ofBytes_eq_error_iff_refusal.trans
    ⟨fun refused => refused.front_of_aboutFront about, .front⟩

/-- A file is loaded exactly if it has one of two shapes, and what is loaded is what stands in it. Any
other file is refused with the error of the first stage that fails. Three errors are settled by the
front of the file: a program for another machine, a container of another type, whose type is told with
zeros where bytes are missing, and a front that shows nothing known. -/
theorem ofBytes_shapes (path : Path) (data : Bytes) :
    (∀ loaded, (ofBytes path data).outcome = .ok loaded ↔ Shape path data loaded) ∧
    (∀ cause, (ofBytes path data).outcome = .error cause ↔ Refusal data cause) ∧
    ((ofBytes path data).outcome = .error .glulxProgram ↔ MarkedAt data 0 glulxMark) ∧
    (∀ found, (ofBytes path data).outcome = .error (.foreignContainer found) ↔
      MarkedAt data 0 formMark ∧ ¬ MarkedAt data 8 resourceMark ∧
        ⟨data.getD 8 0, data.getD 9 0, data.getD 10 0, data.getD 11 0⟩ = found) ∧
    ∀ found, (ofBytes path data).outcome = .error (.unknownShape found) ↔
      ¬ MarkedAt data 0 glulxMark ∧ ¬ MarkedAt data 0 formMark ∧ ¬ Versioned data ∧
        data.take 4 = found := by
  refine ⟨fun _ => ofBytes_eq_ok_iff_shape, fun _ => ofBytes_eq_error_iff_refusal, ?glulx, ?foreign,
    ?unknown⟩
  case glulx =>
    rw [ofBytes_eq_error_iff_front .glulxProgram trivial]
    exact ⟨fun | .glulx marked => marked, .glulx⟩
  case foreign =>
    intro found
    rw [ofBytes_eq_error_iff_front (.foreignContainer found) trivial]
    constructor
    · intro
      | .foreign form foreign => exact ⟨form, foreign, rfl⟩
    · rintro ⟨form, foreign, rfl⟩
      exact .foreign form foreign
  case unknown =>
    intro found
    rw [ofBytes_eq_error_iff_front (.unknownShape found) trivial]
    constructor
    · intro
      | .unknown noGlulx noForm unversioned => exact ⟨noGlulx, noForm, unversioned, rfl⟩
    · rintro ⟨noGlulx, noForm, unversioned, rfl⟩
      exact .unknown noGlulx noForm unversioned

/-- An index may lead back to the front of the file, where a chunk of another kind seems to start. -/
example : (ofBytes "/s/odd" (formMark ++ [0, 0, 0, 0] ++ resourceMark ++ Tag.resourceIndex.toBytes ++
    [0, 0, 0, 16, 0, 0, 0, 1] ++ Tag.executable.toBytes ++ [0, 0, 0, 0, 0, 0, 0, 0])).outcome =
      .error (.foreignExecutable ⟨0x46, 0x4F, 0x52, 0x4D⟩) := by
  decide +kernel

end StoryBundle.Story
