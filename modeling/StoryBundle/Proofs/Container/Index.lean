import StoryBundle.Container.Index

/-!
# Laws of the resource index

An index is strictly in order, so it has at most one entry for a key, and that entry comes from the
last row for the key (`find?_ofRows`).
-/

namespace StoryBundle

namespace Entry

theorem Before.trans {first second third : Entry} (left : first.Before second)
    (right : second.Before third) : first.Before third := by
  rcases left with usageLeft | ⟨sameLeft, numberLeft⟩
  · rcases right with usageRight | ⟨sameRight, _⟩
    · exact .inl (List.lt_trans usageLeft usageRight)
    · exact .inl (sameRight ▸ usageLeft)
  · rcases right with usageRight | ⟨sameRight, numberRight⟩
    · exact .inl (sameLeft ▸ usageRight)
    · exact .inr ⟨sameLeft.trans sameRight, UInt32.lt_trans numberLeft numberRight⟩

/-- Entries with one key are not in order. -/
theorem Before.key_ne {left right : Entry} (order : left.Before right) : left.key ≠ right.key := by
  intro same
  obtain ⟨usage, number⟩ := Prod.mk.inj same
  rcases order with earlier | ⟨_, earlier⟩
  · rw [usage] at earlier
    exact List.lt_irrefl _ earlier
  · rw [number] at earlier
    exact UInt32.lt_irrefl _ earlier

/-- Of two entries with different keys one comes before the other. -/
theorem before_or_before {left right : Entry} (different : left.key ≠ right.key) :
    left.Before right ∨ right.Before left := by
  by_cases usage : left.usage = right.usage
  · have number : left.number ≠ right.number := fun same =>
      different (Prod.ext usage same)
    rcases UInt32.lt_or_lt_of_ne number with less | greater
    · exact .inl (.inr ⟨usage, less⟩)
    · exact .inr (.inr ⟨usage.symm, greater⟩)
  · have bytes : left.usage.toBytes ≠ right.usage.toBytes := fun same =>
      usage (Tag.toBytes_injective same)
    by_cases less : left.usage.toBytes < right.usage.toBytes
    · exact .inl (.inl less)
    · by_cases greater : right.usage.toBytes < left.usage.toBytes
      · exact .inr (.inl greater)
      · exact absurd (Std.Trichotomous.trichotomous _ _ less greater) bytes

/-- Bytes that do not start with a row are fewer than a row has. -/
theorem length_lt_size {rows : Bytes}
    (noRow : ∀ u₀ u₁ u₂ u₃ n₀ n₁ n₂ n₃ s₀ s₁ s₂ s₃ rest,
      rows = u₀ :: u₁ :: u₂ :: u₃ :: n₀ :: n₁ :: n₂ :: n₃ :: s₀ :: s₁ :: s₂ :: s₃ :: rest → False) :
    rows.length < size := by
  refine Nat.not_le.mp fun enough => ?_
  have width : (rows.take 12).length = 12 := List.length_take_of_le enough
  have parts := List.take_append_drop 12 rows
  match front : rows.take 12, width with
  | [u₀, u₁, u₂, u₃, n₀, n₁, n₂, n₃, s₀, s₁, s₂, s₃], _ =>
    rw [front] at parts
    exact noRow _ _ _ _ _ _ _ _ _ _ _ _ _ parts.symm

end Entry

namespace Index

/-- Every entry comes before those after it. -/
def Ordered (index : Index) : Prop := index.Pairwise Entry.Before

theorem mem_of_mem_insertNew {entry found : Entry} {index : Index}
    (member : found ∈ index.insertNew entry) : found = entry ∨ found ∈ index := by
  induction index with
  | nil => exact .inl (List.mem_singleton.mp member)
  | cons head rest ih =>
    unfold insertNew at member
    split at member
    · exact .inr member
    · split at member
      · exact List.mem_cons.mp member
      · rcases List.mem_cons.mp member with rfl | later
        · exact .inr List.mem_cons_self
        · exact (ih later).imp_right (List.mem_cons_of_mem _)

theorem Ordered.insertNew {index : Index} (ordered : index.Ordered) (entry : Entry) :
    (index.insertNew entry).Ordered := by
  induction index with
  | nil => exact List.pairwise_singleton _ entry
  | cons head rest ih =>
    obtain ⟨headFirst, restOrdered⟩ := List.pairwise_cons.mp ordered
    unfold Index.insertNew
    split
    · exact ordered
    · rename_i different
      split
      · rename_i before
        refine List.pairwise_cons.mpr ⟨?_, ordered⟩
        intro other member
        rcases List.mem_cons.mp member with rfl | later
        · exact before
        · exact before.trans (headFirst other later)
      · rename_i notBefore
        refine List.pairwise_cons.mpr ⟨?_, ih restOrdered⟩
        intro other member
        rcases mem_of_mem_insertNew member with rfl | later
        · exact (Entry.before_or_before different).resolve_left notBefore
        · exact headFirst other later

theorem ordered_ofRows (rows : List Entry) : (ofRows rows).Ordered := by
  induction rows with
  | nil => exact List.Pairwise.nil
  | cons row rest ih => exact ih.insertNew row

/-- An entry that was there is found before one that was put in. -/
theorem find?_insertNew {index : Index} (ordered : index.Ordered) (entry : Entry)
    (key : Tag × UInt32) :
    (index.insertNew entry).find? (·.key == key) =
      (index.find? (·.key == key)).or ([entry].find? (·.key == key)) := by
  induction index with
  | nil => rfl
  | cons head rest ih =>
    obtain ⟨headFirst, restOrdered⟩ := List.pairwise_cons.mp ordered
    unfold insertNew
    split
    · rename_i same
      by_cases asked : entry.key = key
      · have found : (head.key == key) = true := by rw [← same, asked, beq_self_eq_true]
        rw [List.find?_cons, found]
        rfl
      · have absent : [entry].find? (·.key == key) = none := by simp [asked]
        rw [absent, Option.or_none]
    · split
      · rename_i before
        by_cases asked : entry.key = key
        · -- No entry after the new one has its key, since all of them come later in the order.
          have absent : (head :: rest).find? (·.key == key) = none := by
            rw [List.find?_eq_none]
            intro other member
            have later : entry.Before other := by
              rcases List.mem_cons.mp member with rfl | inRest
              · exact before
              · exact before.trans (headFirst other inRest)
            have different := later.key_ne
            rw [asked] at different
            simpa using different.symm
          rw [absent, Option.none_or]
          simp [asked]
        · have skipped : (entry.key == key) = false := by simp [asked]
          rw [List.find?_cons, skipped]
          simp [asked]
      · rw [List.find?_cons, List.find?_cons, ih restOrdered]
        cases head.key == key <;> rfl

/-- A key is looked up in the last of its rows. -/
theorem find?_ofRows (rows : List Entry) (key : Tag × UInt32) :
    (ofRows rows).find? (·.key == key) = rows.reverse.find? (·.key == key) := by
  induction rows with
  | nil => rfl
  | cons row rest ih =>
    change (insertNew row (ofRows rest)).find? _ = _
    rw [find?_insertNew (ordered_ofRows rest), ih, List.reverse_cons, List.find?_append]

theorem start?_ofRows_eq_none_iff {rows : List Entry} {usage : Tag} {number : UInt32} :
    (ofRows rows).start? usage number = none ↔ ∀ row ∈ rows, row.key ≠ (usage, number) := by
  rw [start?, Option.map_eq_none_iff, find?_ofRows, List.find?_eq_none]
  simp only [List.mem_reverse, beq_iff_eq, ne_eq]

/-- Rows after the last one for a key do not matter to it, nor do those before it. -/
theorem start?_ofRows_of_last {before after : List Entry} {row : Entry}
    (last : ∀ later ∈ after, later.key ≠ row.key) :
    (ofRows (before ++ row :: after)).start? row.usage row.number = some row.start.toNat := by
  have absent : after.reverse.find? (·.key == row.key) = none := by
    rw [List.find?_eq_none]
    intro later member
    simpa using last later (List.mem_reverse.mp member)
  have found : (ofRows (before ++ row :: after)).find? (·.key == row.key) = some row := by
    rw [find?_ofRows, List.reverse_append, List.reverse_cons, List.append_assoc, List.find?_append,
      absent, Option.none_or, List.singleton_append, List.find?_cons, beq_self_eq_true]
  rw [start?]
  change Option.map _ ((ofRows (before ++ row :: after)).find? (·.key == row.key)) = _
  rw [found, Option.map_some]

end Index
end StoryBundle
