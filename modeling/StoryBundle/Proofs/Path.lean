import Mathlib.Data.List.Nodup
import StoryBundle.Path
import StoryBundle.Proofs.Repeats
import StoryBundle.Proofs.Text.Utf8

/-!
# Paths and their order

A path that is text is shown as the text (`shown_ofText`). Paths are ordered by their components, and
two of them stand at one place exactly if their components are the same (`order_eq_eq_iff`). So sorted
paths ascend strictly (`pairwise_sorted`). They are the first of the given paths for each run of
components (`mem_sorted_iff`), and where no components are spelled in two ways it matters neither in
which order nor how often a path was given (`sorted_congr`).
-/

namespace StoryBundle

open Std

namespace Component

instance : TransCmp order :=
  inferInstanceAs (TransCmp (compareLex (compareOn rank) (compareOn nameBytes)))

/-- The component with a rank, and with some bytes if it is a name. -/
def ofRank : Nat → Bytes → Component
  | 0, _ => root
  | 1, _ => here
  | 2, _ => up
  | _, bytes => name bytes

theorem ofRank_rank (component : Component) :
    ofRank component.rank component.nameBytes = component := by
  cases component <;> rfl

instance : LawfulEqCmp order where
  eq_of_compare {left right} same := by
    rw [order, Ordering.then_eq_eq, LawfulEqOrd.compare_eq_iff_eq,
      LawfulEqOrd.compare_eq_iff_eq] at same
    rw [← ofRank_rank left, same.1, same.2, ofRank_rank]

end Component

namespace Path

/-! ## Text -/

/-- Some text spells the path. -/
def IsText (path : Path) : Prop := ∃ text : String, text = path

theorem text?_eq_some_iff {path : Path} {text : String} : path.text? = some text ↔ text = path := by
  rw [text?, Text.Utf8.text?_eq_some_iff, ofText, Path.ext_iff]

theorem text?_eq_none_iff {path : Path} : path.text? = none ↔ ¬ path.IsText := by
  simp only [Option.eq_none_iff_forall_ne_some, ne_eq, text?_eq_some_iff, IsText, not_exists]

@[simp] theorem shown_ofText (text : String) : (ofText text).shown = text := by
  rw [shown, ofText, Text.Utf8.decode_encode, String.ofList_toList]

/-! ## Order -/

instance : TransCmp order where
  eq_swap {left right} :=
    @OrientedCmp.eq_swap _ (List.compareLex Component.order) _ left.components right.components
  isLE_trans {left middle right} :=
    @TransCmp.isLE_trans _ (List.compareLex Component.order) _ left.components middle.components
      right.components

theorem order_eq_eq_iff {left right : Path} :
    order left right = .eq ↔ left.components = right.components :=
  @LawfulEqCmp.compare_eq_iff_eq _ (List.compareLex Component.order) _ _ _

theorem isLE_order_total (left right : Path) :
    ((order left right).isLE || (order right left).isLE) = true := by
  have swapped : order right left = (order left right).swap := OrientedCmp.eq_swap
  rw [swapped, Ordering.isLE_swap]
  cases order left right <;> rfl

/-- No components are spelled in two ways. -/
def SpelledApart (paths : List Path) : Prop :=
  ∀ left ∈ paths, ∀ right ∈ paths, left.components = right.components → left = right

variable {paths others : List Path} {path : Path}

/-- The first path with its components is kept. -/
theorem mem_sorted_iff :
    path ∈ sorted paths ↔ ∃ before after, paths = before ++ path :: after ∧
      path.components ∉ before.map components := by
  rw [sorted, List.mem_mergeSort, mem_firstOfEach_iff]

theorem mem_of_mem_sorted (kept : path ∈ sorted paths) : path ∈ paths := by
  obtain ⟨before, after, rfl, _⟩ := mem_sorted_iff.mp kept
  exact List.mem_append_right _ List.mem_cons_self

theorem exists_mem_sorted (given : path ∈ paths) :
    ∃ kept ∈ sorted paths, kept.components = path.components := by
  obtain ⟨kept, member, same⟩ : ∃ kept ∈ firstOfEach components paths,
      kept.components = path.components := exists_mem_firstOfEach given
  exact ⟨kept, List.mem_mergeSort.mpr member, same⟩

theorem mem_sorted_iff_of_spelledApart (apart : SpelledApart paths) :
    path ∈ sorted paths ↔ path ∈ paths := by
  refine ⟨mem_of_mem_sorted, fun given => ?_⟩
  obtain ⟨kept, member, same⟩ := exists_mem_sorted given
  exact apart kept (mem_of_mem_sorted member) path given same ▸ member

theorem pairwise_components_sorted :
    (sorted paths).Pairwise fun left right => left.components ≠ right.components :=
  (List.mergeSort_perm _ _).symm.pairwise (pairwise_firstOfEach paths) Ne.symm

/-- Paths that ascend and have different components ascend strictly. -/
theorem pairwise_sorted : (sorted paths).Pairwise fun left right => order left right = .lt := by
  have ascending : (sorted paths).Pairwise fun left right => (order left right).isLE = true :=
    List.pairwise_mergeSort (fun _ _ _ => TransCmp.isLE_trans) isLE_order_total _
  refine (ascending.and pairwise_components_sorted).imp ?_
  rintro left right ⟨notAfter, differ⟩
  rcases Ordering.isLE_iff_eq_lt_or_eq_eq.mp notAfter with before | same
  · exact before
  · exact absurd (order_eq_eq_iff.mp same) differ

/-- Only one list has given members and ascends strictly. -/
theorem eq_of_pairwise_order {left right : List Path}
    (leftAscends : left.Pairwise fun earlier later => order earlier later = .lt)
    (rightAscends : right.Pairwise fun earlier later => order earlier later = .lt)
    (same : ∀ path, path ∈ left ↔ path ∈ right) : left = right := by
  have apart {paths : List Path}
      (ascends : paths.Pairwise fun earlier later => order earlier later = .lt) : paths.Nodup := by
    refine ascends.imp ?_
    rintro earlier _ before rfl
    rw [order_eq_eq_iff.mpr rfl] at before
    cases before
  have perm := (List.perm_ext_iff_of_nodup (apart leftAscends) (apart rightAscends)).mpr same
  refine perm.eq_of_pairwise (fun earlier later _ _ before after => ?_) leftAscends rightAscends
  have swapped : order earlier later = (order later earlier).swap := OrientedCmp.eq_swap
  rw [swapped, after] at before
  cases before

/-- Neither the order nor the repeats of the given paths matter. -/
theorem sorted_congr (apart : SpelledApart paths) (same : ∀ path, path ∈ others ↔ path ∈ paths) :
    sorted others = sorted paths := by
  have othersApart : SpelledApart others := fun left leftGiven right rightGiven =>
    apart left ((same left).mp leftGiven) right ((same right).mp rightGiven)
  refine eq_of_pairwise_order pairwise_sorted pairwise_sorted fun path => ?_
  rw [mem_sorted_iff_of_spelledApart othersApart, mem_sorted_iff_of_spelledApart apart, same]

end Path
end StoryBundle
