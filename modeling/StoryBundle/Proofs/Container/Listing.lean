import Mathlib.Data.List.Dedup
import Mathlib.Data.List.Nodup
import StoryBundle.Container.Layout
import StoryBundle.Proofs.Bytes
import StoryBundle.Proofs.Container.Decoding
import StoryBundle.Proofs.Container.Index

/-!
# The index of a container and its rows

A file spells the rows of its index one after the other (`Entry.spelledAt_readAll`). The index holds
the last row for each key that a row has, in order (`Index.lists_ofRows`), so it is what the rows say
when later ones overwrite earlier ones (`index_of_decode`).
-/

namespace StoryBundle

/-! ## Rows in a file -/

namespace Entry

/-- The bytes of a file from `place` on spell an entry: its usage, its number and its start. -/
def SpelledAt (data : Bytes) (place : Nat) (entry : Entry) : Prop :=
  data.slice? place size = some (Layout.entryBytes entry.usage entry.number entry.start.toNat)

/-- Each row is spelled where the rows before it end. -/
theorem spelledAt_readAll {rows : Bytes} {place : Nat} {row : Entry}
    (listed : (readAll rows)[place]? = some row) : row.SpelledAt rows (size * place) := by
  induction rows using readAll.induct generalizing place with
  | case1 u₀ u₁ u₂ u₃ n₀ n₁ n₂ n₃ s₀ s₁ s₂ s₃ rest ih =>
    rw [readAll] at listed
    have shape : u₀ :: u₁ :: u₂ :: u₃ :: n₀ :: n₁ :: n₂ :: n₃ :: s₀ :: s₁ :: s₂ :: s₃ :: rest =
        [u₀, u₁, u₂, u₃, n₀, n₁, n₂, n₃, s₀, s₁, s₂, s₃] ++ rest := rfl
    cases place with
    | zero =>
      obtain rfl := Option.some.inj listed
      have spelled : Layout.entryBytes ⟨u₀, u₁, u₂, u₃⟩ (Bytes.word32 [n₀, n₁, n₂, n₃])
          (Bytes.word32 [s₀, s₁, s₂, s₃]).toNat =
            [u₀, u₁, u₂, u₃, n₀, n₁, n₂, n₃, s₀, s₁, s₂, s₃] := by
        rw [Layout.entryBytes, Bytes.toBigEndian_word32 rfl, Bytes.toBigEndian_word32 rfl]
        rfl
      rw [SpelledAt, spelled, shape]
      exact Bytes.slice?_append_of_some (Bytes.slice?_self _)
    | succ place =>
      have later := ih listed
      rw [SpelledAt, shape, Nat.mul_succ, Nat.add_comm]
      exact (Bytes.slice?_append_right _ rest _ _).trans later
  | case2 rows noRow =>
    rw [readAll] at listed
    · cases listed
    · exact noRow

/-- As many rows are read as there is room for. -/
theorem length_readAll (rows : Bytes) : (readAll rows).length = rows.length / size := by
  induction rows using readAll.induct with
  | case1 u₀ u₁ u₂ u₃ n₀ n₁ n₂ n₃ s₀ s₁ s₂ s₃ rest ih =>
    rw [readAll, List.length_cons, ih, size]
    simp only [List.length_cons]
    omega
  | case2 rows noRow =>
    rw [readAll, Nat.div_eq_of_lt (length_lt_size noRow)]
    · rfl
    · exact noRow

end Entry

/-! ## The index of rows -/

namespace Index

/-- A row with no row for its key after it. -/
def IsLast (rows : List Entry) (row : Entry) : Prop :=
  ∃ before after, rows = before ++ row :: after ∧ ∀ later ∈ after, later.key ≠ row.key

/-- The index lists the last row for each key of the rows, in order. -/
structure Lists (index : Index) (rows : List Entry) : Prop where
  ordered : index.Ordered
  mem_iff : ∀ entry, entry ∈ index ↔ IsLast rows entry
  nodup_keys : (index.map Entry.key).Nodup
  mem_keys_iff : ∀ key, key ∈ index.map Entry.key ↔ key ∈ rows.map Entry.key
  start?_eq_some_iff : ∀ usage number start, index.start? usage number = some start ↔
    ∃ row, IsLast rows row ∧ row.key = (usage, number) ∧ row.start.toNat = start
  start?_eq_none_iff : ∀ usage number, index.start? usage number = none ↔
    ∀ row ∈ rows, row.key ≠ (usage, number)
  length_eq : index.length = (rows.map Entry.key).dedup.length
  length_le : index.length ≤ rows.length
  length_eq_iff : index.length = rows.length ↔ (rows.map Entry.key).Nodup

theorem Lists.start?_eq_some_iff_mem {index : Index} {rows : List Entry} (lists : index.Lists rows)
    {usage : Tag} {number : UInt32} {start : Nat} : index.start? usage number = some start ↔
      ∃ word : UInt32, ⟨usage, number, word⟩ ∈ index ∧ word.toNat = start := by
  rw [lists.start?_eq_some_iff]
  constructor
  · rintro ⟨⟨_, _, word⟩, last, keyed, rfl⟩
    obtain ⟨rfl, rfl⟩ := Prod.mk.inj keyed
    exact ⟨word, (lists.mem_iff _).mpr last, rfl⟩
  · rintro ⟨word, member, rfl⟩
    exact ⟨_, (lists.mem_iff _).mp member, rfl, rfl⟩

theorem find?_ofRows_eq_some_iff {rows : List Entry} {key : Tag × UInt32} {row : Entry} :
    (ofRows rows).find? (·.key == key) = some row ↔ IsLast rows row ∧ row.key = key := by
  rw [find?_ofRows, List.find?_eq_some_iff_append]
  constructor
  · rintro ⟨asked, after, before, parts, passed⟩
    have own : row.key = key := beq_iff_eq.mp asked
    refine ⟨⟨before.reverse, after.reverse, ?_, ?_⟩, own⟩
    · rw [← List.reverse_reverse rows, parts]
      simp
    · intro later member
      simpa [own] using passed later (List.mem_reverse.mp member)
  · rintro ⟨⟨before, after, rfl, none⟩, rfl⟩
    refine ⟨beq_self_eq_true _, after.reverse, before.reverse, by simp, ?_⟩
    intro later member
    simpa using none later (List.mem_reverse.mp member)

/-- An entry of an index in order is what its key finds. -/
theorem Ordered.mem_iff {index : Index} (ordered : index.Ordered) {entry : Entry} :
    entry ∈ index ↔ index.find? (·.key == entry.key) = some entry := by
  constructor
  · intro member
    obtain ⟨before, after, rfl⟩ := List.append_of_mem member
    rw [List.find?_eq_some_iff_append]
    refine ⟨beq_self_eq_true _, before, after, rfl, fun other earlier => ?_⟩
    have order := (List.pairwise_append.mp ordered).2.2 other earlier entry List.mem_cons_self
    simpa using order.key_ne
  · exact List.mem_of_find?_eq_some

theorem mem_ofRows_iff {rows : List Entry} {entry : Entry} :
    entry ∈ ofRows rows ↔ IsLast rows entry := by
  rw [(ordered_ofRows rows).mem_iff, find?_ofRows_eq_some_iff, and_iff_left rfl]

theorem Ordered.nodup_keys {index : Index} (ordered : index.Ordered) :
    (index.map Entry.key).Nodup := by
  rw [List.Nodup, List.pairwise_map]
  exact List.Pairwise.imp Entry.Before.key_ne ordered

theorem mem_map_key_iff {entries : List Entry} {key : Tag × UInt32} :
    key ∈ entries.map Entry.key ↔ (entries.find? (·.key == key)).isSome = true := by
  rw [List.find?_isSome, List.mem_map]
  simp only [beq_iff_eq]

theorem mem_keys_ofRows_iff {rows : List Entry} {key : Tag × UInt32} :
    key ∈ (ofRows rows).map Entry.key ↔ key ∈ rows.map Entry.key := by
  rw [mem_map_key_iff, find?_ofRows, ← mem_map_key_iff, List.map_reverse, List.mem_reverse]

/-- There are as many entries as there are keys. -/
theorem length_ofRows (rows : List Entry) :
    (ofRows rows).length = (rows.map Entry.key).dedup.length := by
  have same : ((ofRows rows).map Entry.key).Perm (rows.map Entry.key).dedup := by
    rw [List.perm_ext_iff_of_nodup (ordered_ofRows rows).nodup_keys (List.nodup_dedup _)]
    intro key
    rw [mem_keys_ofRows_iff, List.mem_dedup]
  rw [← same.length_eq, List.length_map]

theorem start?_ofRows_eq_some_iff {rows : List Entry} {usage : Tag} {number : UInt32} {start : Nat} :
    (ofRows rows).start? usage number = some start ↔
      ∃ row, IsLast rows row ∧ row.key = (usage, number) ∧ row.start.toNat = start := by
  rw [start?, Option.map_eq_some_iff]
  simp only [find?_ofRows_eq_some_iff, and_assoc]

theorem lists_ofRows (rows : List Entry) : (ofRows rows).Lists rows := by
  have fewer : (rows.map Entry.key).dedup.Sublist (rows.map Entry.key) := List.dedup_sublist _
  have count := length_ofRows rows
  have keys : (rows.map Entry.key).length = rows.length := List.length_map _
  exact {
    ordered := ordered_ofRows rows
    mem_iff := fun _ => mem_ofRows_iff
    nodup_keys := (ordered_ofRows rows).nodup_keys
    mem_keys_iff := fun _ => mem_keys_ofRows_iff
    start?_eq_some_iff := fun _ _ _ => start?_ofRows_eq_some_iff
    start?_eq_none_iff := fun _ _ => start?_ofRows_eq_none_iff
    length_eq := count
    length_le := by
      rw [count, ← keys]
      exact fewer.length_le
    length_eq_iff := by
      rw [count, ← keys, ← List.dedup_eq_self]
      exact ⟨fewer.eq_of_length, congrArg List.length⟩ }

end Index

/-- The rows that a file spells from `place` on: a count, and then as many rows. -/
def Index.RowsAt (data : Bytes) (place : Nat) (rows : List Entry) : Prop :=
  ∃ count, data.slice? place 4 = some count ∧ rows.length = Bytes.bigEndian count ∧
    ∀ (position : Nat) row, rows[position]? = some row →
      row.SpelledAt data (place + 4 + Entry.size * position)

/-- The rows that the index chunk of a file spells. -/
def Index.RowsIn (data : Bytes) (rows : List Entry) : Prop :=
  ∃ at_, locate? data Tag.resourceIndex = some at_ ∧ RowsAt data (at_ + chunkHeaderSize) rows

/-- An index that was read lists the rows behind the count. -/
theorem Index.exists_rowsAt_of_read {data : Bytes} {at_ : Nat} {index : Index}
    (listed : (Index.read data at_).outcome = .ok index) :
    ∃ rows, RowsAt data (at_ + chunkHeaderSize) rows ∧ index.Lists rows := by
  obtain ⟨count, bytes, counted, present, rfl⟩ := Index.read_eq_ok_iff.mp listed
  have width := Bytes.length_of_slice? present
  refine ⟨Entry.readAll bytes, ⟨count, counted, ?_, ?_⟩, Index.lists_ofRows _⟩
  · rw [Entry.length_readAll, width]
    exact Nat.mul_div_cancel _ (by decide)
  · intro position row listed
    have spelled := Entry.spelledAt_readAll listed
    have inside := (Bytes.slice?_eq_some_iff.mp spelled).1
    rw [width] at inside
    exact (Bytes.slice?_of_slice? present inside).trans spelled

theorem Container.exists_rowsIn_of_decode {data : Bytes} {reference : Option Bytes}
    {container : Container} (decoded : (decode data reference).outcome = .ok container) :
    ∃ rows, Index.RowsIn container.data rows ∧ container.index.Lists rows := by
  obtain ⟨at_, indexed, listed, _, _, rfl, _⟩ := decode_eq_ok_iff.mp decoded
  obtain ⟨rows, spelled, lists⟩ := Index.exists_rowsAt_of_read listed
  exact ⟨rows, ⟨at_, indexed, spelled⟩, lists⟩

theorem Container.ordered_of_decode {data : Bytes} {reference : Option Bytes} {container : Container}
    (decoded : (decode data reference).outcome = .ok container) : container.index.Ordered := by
  obtain ⟨_, _, lists⟩ := exists_rowsIn_of_decode decoded
  exact lists.ordered

end StoryBundle
