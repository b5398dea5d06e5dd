import StoryBundle.Proofs.Except
import StoryBundle.Story.Basic

/-!
# What a story comes from

A bare story is its whole file. A wrapped one is the main program of the container that the file
holds, and that container is loaded without a reference.
-/

namespace StoryBundle.Story

theorem ofBytes_eq_ok_iff {path : Path} {data : Bytes} {loaded : LoadedStory} :
    (ofBytes path data).outcome = .ok loaded ↔
      Packaging.detect data = .ok .bare ∧ ⟨⟨path, .bare, data⟩, none⟩ = loaded ∨
      Packaging.detect data = .ok .wrapped ∧ ∃ container image,
        (Container.decode data none).outcome = .ok container ∧
        (container.executable mainProgram).outcome = .ok image ∧
        ⟨⟨path, .wrapped, image⟩, some container⟩ = loaded := by
  simp only [ofBytes, Logged.outcome_bind, Logged.outcome_quiet, Logged.outcome_note,
    Except.ok_bind_eq]
  rcases Packaging.detect data with cause | _ | _
  · simp only [Except.error_bind_eq, reduceCtorEq, false_and, or_self]
  · simp only [Except.ok_bind_eq, Logged.outcome_pure, Except.ok.injEq, reduceCtorEq, false_and,
      or_false, true_and]
  · simp only [Except.ok_bind_eq, Logged.outcome_bind, Logged.outcome_pure, Except.bind_eq_ok_iff,
      Except.ok.injEq, reduceCtorEq, false_and, false_or, true_and, exists_and_left]

/-- The stages of loading in order: packaging, container, program. -/
theorem ofBytes_eq_error_iff {path : Path} {data : Bytes} {cause : DecodeError} :
    (ofBytes path data).outcome = .error cause ↔
      Packaging.detect data = .error cause ∨
      Packaging.detect data = .ok .wrapped ∧
        ((Container.decode data none).outcome = .error cause ∨ ∃ container,
          (Container.decode data none).outcome = .ok container ∧
          (container.executable mainProgram).outcome = .error cause) := by
  simp only [ofBytes, Logged.outcome_bind, Logged.outcome_quiet, Logged.outcome_note,
    Except.ok_bind_eq]
  rcases Packaging.detect data with other | _ | _
  · simp only [Except.error_bind_eq, reduceCtorEq, Except.error.injEq, false_and, or_false]
  · simp only [Except.ok_bind_eq, Logged.outcome_pure, Except.ok.injEq, reduceCtorEq, false_and,
      or_false]
  · simp only [Except.ok_bind_eq, Logged.outcome_bind, Logged.outcome_pure, Except.bind_eq_error_iff,
      reduceCtorEq, and_false, exists_false, or_false, false_or, true_and]

end StoryBundle.Story
