import Mathlib.Data.List.Induction
import StoryBundle.Repeats

/-!
# What keeping the first of each key keeps

An item is kept exactly if no item before it has its key (`firstOfEach_eq_firsts`). So the kept
items stand in their order, have different keys and have every key that there was.
-/

namespace StoryBundle

variable {α κ : Type} [DecidableEq κ] (key : α → κ)

/-- The items whose key none of the items before them has. -/
def firsts (items : List α) : List α :=
  (items.zipIdx.filter fun (item, position) => key item ∉ (items.take position).map key).map Prod.fst

variable {key}

/-- Keys that were seen before only take items away. -/
theorem firstOfEachAfter_eq_filter (seen : List κ) (items : List α) :
    firstOfEachAfter key seen items = (firstOfEach key items).filter (key · ∉ seen) := by
  unfold firstOfEach
  -- For every list of seen keys at once: an item that stays is one more key for those after it.
  induction items generalizing seen with
  | nil => rfl
  | cons item rest ih =>
    simp only [firstOfEachAfter, List.not_mem_nil, if_false]
    rw [ih [key item]]
    by_cases repeated : key item ∈ seen
    · have weaker : ∀ other ∈ firstOfEachAfter key [] rest,
          (decide (key other ∉ seen) && decide (key other ∉ [key item])) =
            decide (key other ∉ seen) := by
        intro other _
        by_cases same : key other = key item <;> simp [same, repeated]
      rw [if_pos repeated, ih seen, List.filter_cons_of_neg (by simpa using repeated),
        List.filter_filter, List.filter_congr weaker]
    · have both : ∀ other ∈ firstOfEachAfter key [] rest,
          (decide (key other ∉ seen) && decide (key other ∉ [key item])) =
            decide (key other ∉ key item :: seen) := by
        intro other _
        simp [Bool.and_comm]
      rw [if_neg repeated, ih (key item :: seen), List.filter_cons_of_pos (by simpa using repeated),
        List.filter_filter, List.filter_congr both]

/-- The first item stays and takes away all later ones with its key. -/
theorem firstOfEach_cons (item : α) (rest : List α) :
    firstOfEach key (item :: rest) = item :: (firstOfEach key rest).filter (key · ≠ key item) := by
  have start : firstOfEach key (item :: rest) = item :: firstOfEachAfter key [key item] rest := by
    simp [firstOfEach, firstOfEachAfter]
  rw [start, firstOfEachAfter_eq_filter]
  simp only [List.mem_singleton, ne_eq]

theorem firstOfEach_sublist (items : List α) : (firstOfEach key items).Sublist items := by
  induction items with
  | nil => exact List.Sublist.refl []
  | cons item rest ih =>
    rw [firstOfEach_cons]
    exact (List.filter_sublist.trans ih).cons_cons item

theorem pairwise_firstOfEach (items : List α) :
    (firstOfEach key items).Pairwise fun left right => key left ≠ key right := by
  induction items with
  | nil => exact List.Pairwise.nil
  | cons item rest ih =>
    rw [firstOfEach_cons, List.pairwise_cons]
    constructor
    · intro later member
      have different : key later ≠ key item := by simpa using (List.mem_filter.mp member).2
      exact different.symm
    · exact ih.filter _

/-- Items with different keys are all kept. -/
theorem firstOfEach_of_pairwise {items : List α}
    (distinct : items.Pairwise fun left right => key left ≠ key right) :
    firstOfEach key items = items := by
  induction distinct with
  | nil => rfl
  | @cons item rest differs _ ih =>
    have stays : rest.filter (key · ≠ key item) = rest := by
      rw [List.filter_eq_self]
      intro later member
      simpa using (differs later member).symm
    rw [firstOfEach_cons, ih, stays]

/-- An item in front may as well be put there after the others were looked through. -/
theorem firstOfEach_cons_firstOfEach (item : α) (rest : List α) :
    firstOfEach key (item :: firstOfEach key rest) = firstOfEach key (item :: rest) := by
  rw [firstOfEach_cons, firstOfEach_cons, firstOfEach_of_pairwise (pairwise_firstOfEach rest)]

/-- No key is lost. -/
theorem exists_mem_firstOfEach {items : List α} {item : α} (member : item ∈ items) :
    ∃ kept ∈ firstOfEach key items, key kept = key item := by
  induction items with
  | nil => cases member
  | cons head rest ih =>
    rw [firstOfEach_cons]
    by_cases same : key item = key head
    · exact ⟨head, List.mem_cons_self, same.symm⟩
    · have later : item ∈ rest := by
        rcases List.mem_cons.mp member with rfl | later
        · exact absurd rfl same
        · exact later
      obtain ⟨kept, found, sameKey⟩ := ih later
      refine ⟨kept, List.mem_cons_of_mem _ (List.mem_filter.mpr ⟨found, ?_⟩), sameKey⟩
      simpa [sameKey] using same

/-- An item stays if none before it has its key. -/
theorem mem_firstOfEach_of_unseen {before after : List α} {item : α}
    (unseen : key item ∉ before.map key) : item ∈ firstOfEach key (before ++ item :: after) := by
  induction before with
  | nil =>
    rw [List.nil_append, firstOfEach_cons]
    exact List.mem_cons_self
  | cons head rest ih =>
    rw [List.map_cons, List.mem_cons, not_or] at unseen
    obtain ⟨different, later⟩ := unseen
    rw [List.cons_append, firstOfEach_cons]
    refine List.mem_cons_of_mem _ (List.mem_filter.mpr ⟨ih later, ?_⟩)
    simpa using different

/-- The items that stay are those with a key that none before them has. -/
theorem mem_firstOfEach_iff {items : List α} {item : α} :
    item ∈ firstOfEach key items ↔
      ∃ before after, items = before ++ item :: after ∧ key item ∉ before.map key := by
  constructor
  · intro kept
    induction items with
    | nil => cases kept
    | cons head rest ih =>
      rw [firstOfEach_cons, List.mem_cons, List.mem_filter, decide_eq_true_eq] at kept
      rcases kept with rfl | ⟨later, different⟩
      · exact ⟨[], rest, rfl, List.not_mem_nil⟩
      · obtain ⟨before, after, rfl, unseen⟩ := ih later
        refine ⟨head :: before, after, rfl, ?_⟩
        rw [List.map_cons, List.mem_cons, not_or]
        exact ⟨different, unseen⟩
  · rintro ⟨before, after, rfl, unseen⟩
    exact mem_firstOfEach_of_unseen unseen

/-- A kept item is the only one with its key. -/
theorem filter_firstOfEach_of_mem {items : List α} {item : α} (kept : item ∈ firstOfEach key items) :
    (firstOfEach key items).filter (key · = key item) = [item] := by
  obtain ⟨before, after, parts⟩ := List.append_of_mem kept
  have distinct : (firstOfEach key items).Pairwise fun left right => key left ≠ key right :=
    pairwise_firstOfEach items
  rw [parts, List.pairwise_append, List.pairwise_cons] at distinct
  obtain ⟨_, ⟨differsAfter, _⟩, differsBefore⟩ := distinct
  have noneBefore : before.filter (key · = key item) = [] := by
    rw [List.filter_eq_nil_iff]
    intro other member
    simpa using differsBefore other member item List.mem_cons_self
  have noneAfter : after.filter (key · = key item) = [] := by
    rw [List.filter_eq_nil_iff]
    intro other member
    simpa using (differsAfter other member).symm
  rw [parts, List.filter_append, noneBefore, List.filter_cons_of_pos (by simp), noneAfter,
    List.nil_append]

/-- An item at the end stays unless its key is there already. -/
theorem firstOfEach_concat (items : List α) (item : α) :
    firstOfEach key (items ++ [item]) =
      firstOfEach key items ++ if key item ∈ items.map key then [] else [item] := by
  induction items with
  | nil => rfl
  | cons head rest ih =>
    rw [List.cons_append, firstOfEach_cons, firstOfEach_cons, ih, List.filter_append,
      List.cons_append]
    by_cases same : key item = key head
    · have present : key item ∈ (head :: rest).map key := by simp [same]
      have taken : (if key item ∈ rest.map key then [] else [item]).filter (key · ≠ key head) = [] := by
        split <;> simp [same]
      rw [taken, if_pos present]
    · by_cases inRest : key item ∈ rest.map key
      · have present : key item ∈ (head :: rest).map key := List.mem_cons_of_mem _ inRest
        rw [if_pos inRest, if_pos present, List.filter_nil]
      · have absent : key item ∉ (head :: rest).map key := by
          rw [List.map_cons, List.mem_cons, not_or]
          exact ⟨same, inRest⟩
        rw [if_neg inRest, if_neg absent, List.filter_cons_of_pos (by simpa using same),
          List.filter_nil]

theorem firsts_concat (items : List α) (item : α) :
    firsts key (items ++ [item]) =
      firsts key items ++ if key item ∈ items.map key then [] else [item] := by
  -- What stands before an item of `items` is the same in the longer list.
  have before : ∀ entry ∈ items.zipIdx, decide (key entry.1 ∉ ((items ++ [item]).take entry.2).map key) =
      decide (key entry.1 ∉ (items.take entry.2).map key) := by
    intro entry member
    have position : entry.2 < items.length := (List.mem_zipIdx' member).1
    rw [List.take_append_of_le_length (Nat.le_of_lt position)]
  rw [firsts, List.zipIdx_append, List.filter_append, List.filter_congr before, List.map_append,
    ← firsts]
  by_cases repeated : key item ∈ items.map key
  · simp [repeated]
  · simp [repeated]

theorem firstOfEach_eq_firsts (items : List α) : firstOfEach key items = firsts key items := by
  induction items using List.reverseRecOn with
  | nil => rfl
  | append_singleton items item ih => rw [firstOfEach_concat, firsts_concat, ih]

end StoryBundle
