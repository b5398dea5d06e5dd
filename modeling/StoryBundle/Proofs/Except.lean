import Mathlib.Data.List.Forall2

/-!
# How a sequence ends

What a sequence of fallible steps has gone through when it ends in a value, and where it stopped
when it ends in an error. A step that is taken for each item of a list ends with the values of all
items (`mapM_eq_ok_iff`) or the error of the first item that has none (`mapM_eq_error_iff`).
-/

namespace Except

variable {ε ε' α β : Type}

@[simp] theorem ok_bind_eq (value : α) (next : α → Except ε β) :
    (.ok value >>= next) = next value := rfl

@[simp] theorem error_bind_eq (cause : ε) (next : α → Except ε β) :
    (.error cause >>= next) = .error cause := rfl

/-- Both steps of a sequence gave a value. -/
theorem bind_eq_ok_iff {first : Except ε α} {next : α → Except ε β} {value : β} :
    first >>= next = .ok value ↔ ∃ middle, first = .ok middle ∧ next middle = .ok value := by
  cases first with
  | error cause => simp only [error_bind_eq, reduceCtorEq, false_and, exists_false]
  | ok middle =>
    constructor
    · intro ended
      exact ⟨middle, rfl, ended⟩
    · rintro ⟨_, ⟨⟩, ended⟩
      exact ended

/-- The first step failed, or it gave a value with which the second one failed. -/
theorem bind_eq_error_iff {first : Except ε α} {next : α → Except ε β} {cause : ε} :
    first >>= next = .error cause ↔
      first = .error cause ∨ ∃ middle, first = .ok middle ∧ next middle = .error cause := by
  cases first with
  | error other =>
    simp only [error_bind_eq, Except.error.injEq, reduceCtorEq, false_and, exists_false, or_false]
  | ok middle =>
    simp only [ok_bind_eq, reduceCtorEq, false_or, Except.ok.injEq, exists_eq_left']

theorem map_eq_ok_iff {computed : Except ε α} {f : α → β} {value : β} :
    computed.map f = .ok value ↔ ∃ given, computed = .ok given ∧ f given = value := by
  cases computed <;> simp [Except.map]

theorem map_eq_error_iff {computed : Except ε α} {f : α → β} {cause : ε} :
    computed.map f = .error cause ↔ computed = .error cause := by
  cases computed <;> simp [Except.map]

/-- Putting an error in other terms neither makes nor loses a value. -/
theorem mapError_eq_ok_iff {computed : Except ε α} {f : ε → ε'} {value : α} :
    computed.mapError f = .ok value ↔ computed = .ok value := by
  cases computed with
  | error cause => constructor <;> intro ended <;> cases ended
  | ok given => constructor <;> intro ended <;> cases ended <;> rfl

theorem mapError_eq_error_iff {computed : Except ε α} {f : ε → ε'} {cause : ε'} :
    computed.mapError f = .error cause ↔ ∃ given, computed = .error given ∧ f given = cause := by
  cases computed with
  | error given =>
    constructor
    · rintro ⟨⟩
      exact ⟨given, rfl, rfl⟩
    · rintro ⟨_, ⟨⟩, rfl⟩
      rfl
  | ok value =>
    constructor
    · rintro ⟨⟩
    · rintro ⟨_, ⟨⟩, _⟩

/-- Each item gave its value. -/
theorem mapM_eq_ok_iff {f : α → Except ε β} {items : List α} {values : List β} :
    items.mapM f = .ok values ↔ List.Forall₂ (fun item value => f item = .ok value) items values := by
  induction items generalizing values with
  | nil =>
    rw [List.mapM_nil, List.forall₂_nil_left_iff]
    constructor
    · rintro ⟨⟩
      rfl
    · rintro rfl
      rfl
  | cons item rest ih =>
    simp only [List.mapM_cons, bind_eq_ok_iff, ih, List.forall₂_cons_left_iff]
    constructor
    · rintro ⟨value, first, others, later, ⟨⟩⟩
      exact ⟨value, others, first, later, rfl⟩
    · rintro ⟨value, others, first, later, rfl⟩
      exact ⟨value, first, others, later, rfl⟩

/-- The items before the one that failed gave their values, and those after it were not tried. -/
theorem mapM_eq_error_iff {f : α → Except ε β} {items : List α} {cause : ε} :
    items.mapM f = .error cause ↔
      ∃ before item after, items = before ++ item :: after ∧
        (∀ earlier ∈ before, ∃ value, f earlier = .ok value) ∧ f item = .error cause := by
  induction items with
  | nil =>
    constructor
    · rintro ⟨⟩
    · rintro ⟨before, _, _, parts, _⟩
      cases before <;> cases parts
  | cons head rest ih =>
    simp only [List.mapM_cons, bind_eq_error_iff, ih]
    constructor
    · rintro (failed | ⟨value, first, later⟩)
      · exact ⟨[], head, rest, rfl, List.forall_mem_nil _, failed⟩
      · rcases later with ⟨before, item, after, rfl, passed, failed⟩ | ⟨_, _, ⟨⟩⟩
        exact ⟨head :: before, item, after, rfl, List.forall_mem_cons.mpr ⟨⟨value, first⟩, passed⟩,
          failed⟩
    · rintro ⟨before, item, after, parts, passed, failed⟩
      cases before with
      | nil =>
        cases parts
        exact .inl failed
      | cons first others =>
        cases parts
        obtain ⟨⟨value, given⟩, passed⟩ := List.forall_mem_cons.mp passed
        exact .inr ⟨value, given, .inl ⟨others, item, after, rfl, passed, failed⟩⟩

end Except
