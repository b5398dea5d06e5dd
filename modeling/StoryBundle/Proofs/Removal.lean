import Mathlib.Data.List.Destutter
import Mathlib.Data.List.Sort
import StoryBundle.Bundle.Basic
import StoryBundle.Proofs.Repeats

/-!
# Taking repeats out in place

The positions of the repeats can be found by comparing every item with every later one, which names a
position once for each earlier item with its key. They are put in order, named once each, and the
items there are taken out one by one. That starts with the last position, so no removal moves an item
that is still to go (`removeEach_eq`). What is left is what one pass over the items keeps, and there is
one warning for each item that went (`keepDistinct_in_place`).
-/

namespace StoryBundle

variable {α κ : Type}

/-- An item before the one at `position` has the same key. -/
def RepeatsAt (key : α → κ) (items : List α) (position : Nat) : Prop :=
  ∃ (inside : position < items.length) (earlier : Nat) (before : earlier < position),
    key items[earlier] = key items[position]

/-- The items that do not stand at one of the positions. -/
def withoutPositions (positions : List Nat) (items : List α) : List α :=
  (items.zipIdx.filter fun (_, position) => position ∉ positions).map Prod.fst

section

variable [DecidableEq κ] (key : α → κ)

/-- The later position of each pair of items with one key. -/
def pairedRepeats (items : List α) : List Nat :=
  (List.finRange items.length).flatMap fun first =>
    ((List.finRange items.length).filter fun second =>
      first < second ∧ key items[first] = key items[second]).map Fin.val

/-- The positions of the repeats in ascending order, each of them once. -/
def repeatPositions (items : List α) : List Nat :=
  ((pairedRepeats key items).insertionSort (· ≤ ·)).destutter (· ≠ ·)

end

/-! ## Positions of repeats -/

section

variable [DecidableEq κ] {key : α → κ}

theorem mem_pairedRepeats_iff {items : List α} {position : Nat} :
    position ∈ pairedRepeats key items ↔ RepeatsAt key items position := by
  simp only [pairedRepeats, List.mem_flatMap, List.mem_finRange, true_and, List.mem_map,
    List.mem_filter, decide_eq_true_eq]
  constructor
  · rintro ⟨first, second, ⟨order, same⟩, rfl⟩
    exact ⟨second.isLt, first, order, same⟩
  · rintro ⟨inside, earlier, before, same⟩
    exact ⟨⟨earlier, Nat.lt_trans before inside⟩, ⟨position, inside⟩, ⟨before, same⟩, rfl⟩

/-- Naming the elements of a run once loses none of them. -/
theorem mem_destutter_ne_iff {items : List Nat} {item : Nat} :
    item ∈ items.destutter (· ≠ ·) ↔ item ∈ items := by
  cases items with
  | nil => rfl
  | cons head rest =>
    rw [List.destutter_cons']
    induction rest generalizing head with
    | nil => rfl
    | cons next more ih =>
      by_cases same : head = next
      · subst same
        rw [List.destutter'_cons_neg _ (not_not.mpr rfl), ih]
        simp
      · rw [List.destutter'_cons_pos _ same, List.mem_cons, ih]
        simp

theorem mem_repeatPositions_iff {items : List α} {position : Nat} :
    position ∈ repeatPositions key items ↔ RepeatsAt key items position := by
  rw [repeatPositions, mem_destutter_ne_iff, List.mem_insertionSort, mem_pairedRepeats_iff]

theorem sortedLT_repeatPositions (items : List α) : (repeatPositions key items).SortedLT := by
  have sorted : ((pairedRepeats key items).insertionSort (· ≤ ·)).SortedLE := List.sortedLE_insertionSort
  have ordered := (sorted.pairwise.sublist (List.destutter_sublist (· ≠ ·) _)).isChain
  have apart := List.isChain_destutter (· ≠ ·) ((pairedRepeats key items).insertionSort (· ≤ ·))
  rw [List.isChain_iff_getElem] at ordered apart
  rw [List.sortedLT_iff_isChain, List.isChain_iff_getElem]
  intro place inside
  exact Nat.lt_of_le_of_ne (ordered place inside) (apart place inside)

/-- A position counted from `start` is listed if the item there has a key that was seen before or that
an item before it has. -/
theorem mem_map_fst_repeatsAfter_iff {start position : Nat} {seen : List κ} {items : List α} :
    position ∈ (repeatsAfter key start seen items).map Prod.fst ↔
      ∃ place item, position = start + place ∧ items[place]? = some item ∧
        (key item ∈ seen ∨ key item ∈ (items.take place).map key) := by
  induction items generalizing start seen with
  | nil => simp [repeatsAfter]
  | cons head rest ih =>
    by_cases repeated : key head ∈ seen
    · rw [repeatsAfter, if_pos repeated, List.map_cons, List.mem_cons, ih]
      constructor
      · rintro (rfl | ⟨place, item, rfl, listed, known⟩)
        · exact ⟨0, head, rfl, rfl, .inl repeated⟩
        · exact ⟨place + 1, item, by omega, listed,
            known.imp_right (List.mem_cons_of_mem _)⟩
      · rintro ⟨_ | place, item, rfl, listed, known⟩
        · exact .inl rfl
        · refine .inr ⟨place, item, by omega, listed, ?_⟩
          rw [List.take_succ_cons, List.map_cons, List.mem_cons] at known
          rcases known with known | same | known
          · exact .inl known
          · exact .inl (same ▸ repeated)
          · exact .inr known
    · rw [repeatsAfter, if_neg repeated, ih]
      constructor
      · rintro ⟨place, item, rfl, listed, known⟩
        refine ⟨place + 1, item, by omega, listed, ?_⟩
        rw [List.take_succ_cons, List.map_cons, List.mem_cons]
        rw [List.mem_cons] at known
        exact or_left_comm.mp (or_assoc.mp known)
      · rintro ⟨_ | place, item, rfl, listed, known⟩
        · obtain rfl := Option.some.inj listed
          exact absurd (known.resolve_right List.not_mem_nil) repeated
        · refine ⟨place, item, by omega, listed, ?_⟩
          rw [List.take_succ_cons, List.map_cons, List.mem_cons] at known
          rw [List.mem_cons]
          exact or_assoc.mpr (or_left_comm.mp known)

theorem mem_map_fst_repeats_iff {items : List α} {position : Nat} :
    position ∈ (repeats key items).map Prod.fst ↔ RepeatsAt key items position := by
  rw [repeats, mem_map_fst_repeatsAfter_iff]
  simp only [Nat.zero_add, List.not_mem_nil, false_or, List.mem_map, List.mem_take_iff_getElem]
  constructor
  · rintro ⟨_, item, rfl, listed, _, ⟨earlier, before, rfl⟩, same⟩
    obtain ⟨inside, rfl⟩ := List.getElem?_eq_some_iff.mp listed
    exact ⟨inside, earlier, Nat.lt_of_lt_of_le before (Nat.min_le_left ..), same⟩
  · rintro ⟨inside, earlier, before, same⟩
    exact ⟨position, items[position], rfl, List.getElem?_eq_getElem inside, items[earlier],
      ⟨earlier, Nat.lt_min.mpr ⟨before, Nat.lt_trans before inside⟩, rfl⟩, same⟩

theorem sortedLT_map_fst_repeatsAfter (start : Nat) (seen : List κ) (items : List α) :
    ((repeatsAfter key start seen items).map Prod.fst).SortedLT := by
  induction items generalizing start seen with
  | nil => exact List.Pairwise.nil.sortedLT
  | cons head rest ih =>
    rw [repeatsAfter]
    split
    · rw [List.map_cons, List.sortedLT_iff_pairwise, List.pairwise_cons]
      refine ⟨fun later listed => ?_, (ih _ _).pairwise⟩
      obtain ⟨place, _, rfl, _⟩ := mem_map_fst_repeatsAfter_iff.mp listed
      omega
    · exact ih _ _

/-- Comparing every two items finds the same positions as one pass. -/
theorem repeatPositions_eq (items : List α) :
    repeatPositions key items = (repeats key items).map Prod.fst := by
  refine (sortedLT_repeatPositions items).eq_of_mem_iff (sortedLT_map_fst_repeatsAfter ..) ?_
  intro position
  rw [mem_repeatPositions_iff, ← mem_map_fst_repeats_iff, repeats]

/-! ## Items that are left -/

/-- Each item is either kept or a repeat. -/
theorem length_firstOfEachAfter_add (start : Nat) (seen : List κ) (items : List α) :
    (firstOfEachAfter key seen items).length + (repeatsAfter key start seen items).length =
      items.length := by
  induction items generalizing start seen with
  | nil => rfl
  | cons head rest ih =>
    rw [firstOfEachAfter, repeatsAfter]
    split
    · rw [List.length_cons, List.length_cons, ← Nat.add_assoc, ih]
    · rw [List.length_cons, List.length_cons, Nat.succ_add, ih]

theorem withoutPositions_repeatPositions (items : List α) :
    withoutPositions (repeatPositions key items) items = firstOfEach key items := by
  have kept : ∀ entry ∈ items.zipIdx, decide (entry.2 ∉ repeatPositions key items) =
      decide (key entry.1 ∉ (items.take entry.2).map key) := by
    intro entry listed
    have own := List.mem_zipIdx_iff_getElem?.mp listed
    have found : entry.2 ∈ repeatPositions key items ↔
        key entry.1 ∈ (items.take entry.2).map key := by
      rw [repeatPositions_eq, repeats, mem_map_fst_repeatsAfter_iff]
      simp [own]
    exact decide_eq_decide.mpr found.not
  rw [firstOfEach_eq_firsts, withoutPositions, List.filter_congr kept, firsts]

end

theorem withoutPositions_nil (items : List α) : withoutPositions [] items = items := by
  simp [withoutPositions]

/-- Items from `start` on stay if every position lies before it. -/
theorem filter_zipIdx_of_lt {positions : List Nat} {start : Nat}
    (before : ∀ position ∈ positions, position < start) (items : List α) :
    (items.zipIdx start).filter (fun entry => entry.2 ∉ positions) = items.zipIdx start := by
  rw [List.filter_eq_self]
  rintro ⟨item, place⟩ listed
  have start_le := (List.mem_zipIdx listed).1
  rw [decide_eq_true_iff]
  intro named
  exact Nat.not_lt_of_le start_le (before place named)

/-- The item at a position behind all others can be taken out first: the others stay where they are. -/
theorem withoutPositions_cons {positions : List Nat} {last : Nat} {items : List α}
    (inside : last < items.length) (before : ∀ position ∈ positions, position < last) :
    withoutPositions (last :: positions) items = withoutPositions positions (items.eraseIdx last) := by
  obtain ⟨front, item, back, rfl, rfl⟩ : ∃ front item back,
      items = front ++ item :: back ∧ front.length = last :=
    ⟨items.take last, items[last], items.drop (last + 1), by simp,
      List.length_take_of_le (Nat.le_of_lt inside)⟩
  have near : ∀ entry ∈ front.zipIdx, decide (entry.2 ∉ front.length :: positions) =
      decide (entry.2 ∉ positions) := by
    intro entry listed
    have below : entry.2 ≠ front.length := Nat.ne_of_lt (List.mem_zipIdx' listed).1
    rw [decide_eq_decide, List.mem_cons, not_or, and_iff_right below]
  have far : ∀ position ∈ front.length :: positions, position < front.length + 1 := by
    intro position named
    rcases List.mem_cons.mp named with rfl | named
    · exact Nat.lt_succ_self _
    · exact Nat.lt_succ_of_lt (before position named)
  have gone : (front ++ item :: back).eraseIdx front.length = front ++ back := by
    rw [List.eraseIdx_append_of_length_le (Nat.le_refl _), Nat.sub_self]
    rfl
  calc withoutPositions (front.length :: positions) (front ++ item :: back)
    _ = (front.zipIdx.filter fun entry => entry.2 ∉ positions).map Prod.fst ++ back := by
      rw [withoutPositions, List.zipIdx_append, List.filter_append, List.filter_congr near,
        Nat.zero_add, List.zipIdx_cons, List.filter_cons_of_neg (by simp),
        filter_zipIdx_of_lt far, List.map_append, List.zipIdx_map_fst]
    _ = withoutPositions positions (front ++ back) := by
      rw [withoutPositions, List.zipIdx_append, List.filter_append, Nat.zero_add,
        filter_zipIdx_of_lt before, List.map_append, List.zipIdx_map_fst]
    _ = withoutPositions positions ((front ++ item :: back).eraseIdx front.length) := by rw [gone]

/-! ## Removal in place -/

/-- What is left when the items at `positions` are taken out: the first of the items with each key. -/
structure KeepsFirsts (key : α → κ) (items : List α) (positions : List Nat) (kept : List α) :
    Prop where
  ascending : positions.Pairwise (· < ·)
  mem_positions_iff : ∀ position, position ∈ positions ↔ RepeatsAt key items position
  kept_eq : kept = withoutPositions positions items
  sublist : kept.Sublist items
  distinct : kept.Pairwise fun left right => key left ≠ key right
  covers : ∀ item ∈ items, ∃ other ∈ kept, key other = key item
  length_add : kept.length + positions.length = items.length

theorem keepsFirsts [DecidableEq κ] (key : α → κ) (items : List α) :
    KeepsFirsts key items (repeatPositions key items) (firstOfEach key items) where
  ascending := (sortedLT_repeatPositions items).pairwise
  mem_positions_iff := fun _ => mem_repeatPositions_iff
  kept_eq := (withoutPositions_repeatPositions items).symm
  sublist := firstOfEach_sublist items
  distinct := pairwise_firstOfEach items
  covers := fun _ => exists_mem_firstOfEach
  length_add := by
    rw [repeatPositions_eq, List.length_map]
    exact length_firstOfEachAfter_add 0 [] items

namespace Bundle

/-- A position at which there is no item. -/
structure OutOfRange where
  position : Nat
  length : Nat
deriving DecidableEq, Repr

/-- Takes out the item at a position and puts that on record first. -/
def removeAt (position : Nat) (items : List α) : Logged OutOfRange (List α) := do
  .tell [repeatNote position]
  if position < items.length then pure (items.eraseIdx position)
  else .fail ⟨position, items.length⟩

/-- Takes out one item after the other. -/
def removeEach : List Nat → List α → Logged OutOfRange (List α)
  | [], items => pure items
  | position :: rest, items => do
    let items ← removeAt position items
    removeEach rest items

/-- Takes out the items whose bytes an earlier one has, the last of them first, and counts them. -/
def removeRepeats (bytes : α → Bytes) (items : List α) : Logged OutOfRange (List α × Nat) := do
  let positions := repeatPositions bytes items
  let items ← removeEach positions.reverse items
  pure (items, positions.length)

/-- From the last position to the first, each removal finds the item that it is meant for. -/
theorem removeEach_eq {positions : List Nat} {items : List α}
    (descending : positions.Pairwise (· > ·))
    (inside : ∀ position ∈ positions, position < items.length) :
    removeEach positions items =
      ⟨.ok (withoutPositions positions items), positions.map repeatNote⟩ := by
  induction positions generalizing items with
  | nil =>
    rw [withoutPositions_nil]
    rfl
  | cons last rest ih =>
    obtain ⟨before, restDescending⟩ := List.pairwise_cons.mp descending
    obtain ⟨lastInside, _⟩ := List.forall_mem_cons.mp inside
    have length := List.length_eraseIdx_of_lt lastInside
    have removed : removeAt last items = ⟨.ok (items.eraseIdx last), [repeatNote last]⟩ := by
      rw [removeAt, if_pos lastInside]
      rfl
    have restInside : ∀ position ∈ rest, position < (items.eraseIdx last).length := by
      intro position named
      have below : position < last := before position named
      omega
    rw [removeEach, removed, Logged.ok_bind, ih restDescending restInside,
      withoutPositions_cons lastInside before]
    rfl

theorem removeRepeats_eq (bytes : α → Bytes) (items : List α) :
    removeRepeats bytes items =
      ⟨.ok (firstOfEach bytes items, (repeatPositions bytes items).length),
        (repeatPositions bytes items).reverse.map repeatNote⟩ := by
  have descending : (repeatPositions bytes items).reverse.Pairwise (· > ·) :=
    List.pairwise_reverse.mpr (sortedLT_repeatPositions items).pairwise
  have inside : ∀ position ∈ (repeatPositions bytes items).reverse, position < items.length := by
    intro position named
    obtain ⟨inside, _⟩ := mem_repeatPositions_iff.mp (List.mem_reverse.mp named)
    exact inside
  have same : withoutPositions (repeatPositions bytes items).reverse items =
      firstOfEach bytes items := by
    rw [← withoutPositions_repeatPositions]
    simp only [withoutPositions, List.mem_reverse]
  rw [removeRepeats, removeEach_eq descending inside, same, Logged.ok_bind]
  exact congrArg (Logged.mk _) (List.append_nil _)

theorem repeatPositions_firstOfEach (bytes : α → Bytes) (items : List α) :
    repeatPositions bytes (firstOfEach bytes items) = [] := by
  have again := (keepsFirsts bytes (firstOfEach bytes items)).length_add
  rw [firstOfEach_of_pairwise (pairwise_firstOfEach items)] at again
  exact List.length_eq_zero_iff.mp (Nat.left_eq_add.mp again.symm)

/-- The warning that the item at a position goes. -/
structure Warns (position : Nat) (note : Note) : Prop where
  severity : note.severity = .warn
  topic : note.topic = .bundle
  text : note.text = "Byte data match found between blorbs in the list. Removing duplicate at " ++
    toString position ++ "."

theorem forall₂_warns (positions : List Nat) :
    List.Forall₂ Warns positions (positions.map repeatNote) := by
  rw [List.forall₂_map_right_iff, List.forall₂_same]
  exact fun _ _ => ⟨rfl, rfl, rfl⟩

/-- Keeping distinct items is taking the repeats out in place, with the same notes: the first item with
each key is left where it stood, the others go in the order of their positions from the last one on,
with a warning for each of them, and a second time there is nothing to take out. -/
theorem keepDistinct_in_place {ε : Type} (bytes : α → Bytes) (items : List α) :
    KeepsFirsts bytes items (repeatPositions bytes items) (firstOfEach bytes items) ∧
      (repeats bytes items).map Prod.fst = repeatPositions bytes items ∧
      (∃ notes, List.Forall₂ Warns (repeatPositions bytes items).reverse notes ∧
        removeRepeats bytes items =
          ⟨.ok (firstOfEach bytes items, (repeatPositions bytes items).length), notes⟩ ∧
        (keepDistinct bytes items : Logged ε (List α)) = ⟨.ok (firstOfEach bytes items), notes⟩) ∧
      removeRepeats bytes (firstOfEach bytes items) = ⟨.ok (firstOfEach bytes items, 0), []⟩ := by
  refine ⟨keepsFirsts bytes items, (repeatPositions_eq items).symm,
    ⟨_, forall₂_warns _, removeRepeats_eq bytes items, ?_⟩, ?_⟩
  · rw [keepDistinct, repeatPositions_eq, ← List.map_reverse, List.map_map]
    rfl
  · rw [removeRepeats_eq, repeatPositions_firstOfEach,
      firstOfEach_of_pairwise (pairwise_firstOfEach items)]
    rfl

/-- A position with two earlier items of its key is named twice among the pairs and taken out once. -/
example : pairedRepeats id [[7], [7], [8], [7]] = [1, 3, 3] ∧
    (removeRepeats id [[7], [7], [8], [7]]).outcome = .ok ([[7], [8]], 2) := by decide +kernel

end Bundle
end StoryBundle
