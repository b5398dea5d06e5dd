import StoryBundle.CommandLine.Inspect
import StoryBundle.Proofs.Path

/-!
# Which paths are inspected

An extension counts in any case (`hasContainerExtension_iff`). `Asks` says which paths are asked for.
Those are inspected in order, one of each run of components (`inspects_paths`).
-/

namespace StoryBundle

/-! ## Extensions -/

theorem Text.toNat_toLower (c : Char) :
    c.toLower.toNat = if 0x41 ≤ c.toNat ∧ c.toNat ≤ 0x5A then c.toNat + 0x20 else c.toNat := by
  have capital_iff : 'A'.val ≤ c.val ∧ c.val ≤ 'Z'.val ↔ 0x41 ≤ c.toNat ∧ c.toNat ≤ 0x5A := Iff.rfl
  delta Char.toLower
  split
  · rename_i capital
    have bounds : 0x41 ≤ c.val.toNat ∧ c.val.toNat ≤ 0x5A := capital_iff.mp capital
    rw [if_pos (capital_iff.mp capital)]
    change (c.val.toNat + 0x20) % _ = c.val.toNat + 0x20
    omega
  · rename_i other
    rw [if_neg (mt capital_iff.mpr other)]

theorem Text.toNat_toUpper (c : Char) :
    c.toUpper.toNat = if 0x61 ≤ c.toNat ∧ c.toNat ≤ 0x7A then c.toNat - 0x20 else c.toNat := by
  have small_iff : 'a'.val ≤ c.val ∧ c.val ≤ 'z'.val ↔ 0x61 ≤ c.toNat ∧ c.toNat ≤ 0x7A := Iff.rfl
  delta Char.toUpper
  split
  · rename_i small
    have bounds : 0x61 ≤ c.val.toNat ∧ c.val.toNat ≤ 0x7A := small_iff.mp small
    rw [if_pos (small_iff.mp small)]
    -- The capital lies 0x20 before the letter, and the way back is a sum that wraps around.
    change (c.val + 0xFFFFFFE0).toNat = c.val.toNat - 0x20
    rw [UInt32.toNat_add]
    change (c.val.toNat + 0xFFFFFFE0) % _ = _
    omega
  · rename_i other
    rw [if_neg (mt small_iff.mpr other)]

theorem Text.toLower_eq_iff {c letter : Char} (small : 0x61 ≤ letter.toNat ∧ letter.toNat ≤ 0x7A) :
    c.toLower = letter ↔ c = letter ∨ c = letter.toUpper := by
  rw [← Char.toNat_inj, ← Char.toNat_inj, ← Char.toNat_inj, toNat_toLower, toNat_toUpper,
    if_pos small]
  split
  all_goals omega

namespace CommandLine

/-- A text spells a word of small letters, of which any may be capitals. -/
def SpellsInAnyCase (text word : List Char) : Prop :=
  List.Forall₂ (fun c letter => c = letter ∨ c = letter.toUpper) text word

theorem map_toLower_eq_iff {text word : List Char}
    (small : ∀ letter ∈ word, 0x61 ≤ letter.toNat ∧ letter.toNat ≤ 0x7A) :
    text.map Char.toLower = word ↔ SpellsInAnyCase text word := by
  rw [← List.forall₂_eq_eq_eq, List.forall₂_map_left_iff, SpellsInAnyCase]
  induction word generalizing text with
  | nil => rw [List.forall₂_nil_right_iff, List.forall₂_nil_right_iff]
  | cons letter rest ih =>
    obtain ⟨first, later⟩ := List.forall_mem_cons.mp small
    rw [List.forall₂_cons_right_iff, List.forall₂_cons_right_iff]
    simp only [Text.toLower_eq_iff first, ih later]

namespace Inspect

/-- The extension of a path is one of those of containers. -/
def KnownExtension (path : Path) : Prop :=
  ∃ extension : String, path.extension? = some (Text.Utf8.encode extension) ∧
    ∃ known ∈ ["blb", "blorb", "zblorb"], SpellsInAnyCase extension.toList known.toList

theorem contains_extensions_iff {extension : String} :
    extensions.contains (extension.map Char.toLower) = true ↔
      ∃ known ∈ ["blb", "blorb", "zblorb"], SpellsInAnyCase extension.toList known.toList := by
  have small : ∀ known ∈ extensions, ∀ letter ∈ known.toList,
      0x61 ≤ letter.toNat ∧ letter.toNat ≤ 0x7A := by simp [extensions]
  rw [List.contains_iff_mem]
  constructor
  · intro listed
    refine ⟨_, listed, (map_toLower_eq_iff (small _ listed)).mp ?_⟩
    rw [String.toList_map]
  · rintro ⟨known, listed, spelled⟩
    have lowered : extension.map Char.toLower = known := by
      rw [← String.toList_inj, String.toList_map]
      exact (map_toLower_eq_iff (small known listed)).mpr spelled
    exact lowered ▸ listed

theorem hasContainerExtension_iff {path : Path} :
    hasContainerExtension path = true ↔ KnownExtension path := by
  rw [hasContainerExtension, Option.any_eq_true]
  refine exists_congr fun extension => and_congr ?_ contains_extensions_iff
  simp only [Option.bind_eq_some_iff, Text.Utf8.text?_eq_some_iff, exists_eq_right']

/-! ## What is inspected -/

/-- The paths that a subject asks for. Of what a walk comes by these are the regular files with a known
extension. -/
def Asks (files : FileSystem) : Subject → Path → Prop
  | .files given, path => path ∈ given
  | .below root, path => .ok ⟨path, .file⟩ ∈ files.walk root ∧ KnownExtension path

/-- The paths that are inspected, in their order: those that are asked for, of each run of components
one, and of the files given that one which is given first. -/
structure Inspects (files : FileSystem) (subject : Subject) (inspected : List Path) : Prop where
  ascends : inspected.Pairwise fun left right => Path.order left right = .lt
  distinct : inspected.Pairwise fun left right => left.components ≠ right.components
  asked : ∀ path ∈ inspected, Asks files subject path
  covers : ∀ path, Asks files subject path → ∃ kept ∈ inspected, kept.components = path.components
  exact : (∀ left right, Asks files subject left → Asks files subject right →
      left.components = right.components → left = right) →
    ∀ path, path ∈ inspected ↔ Asks files subject path
  first : ∀ given, subject = .files given → ∀ path ∈ inspected, ∃ before after,
    given = before ++ path :: after ∧ ∀ earlier ∈ before, earlier.components ≠ path.components

variable {files : FileSystem} {subject : Subject}

/-- What is asked for, as a list. -/
def askedPaths (files : FileSystem) : Subject → List Path
  | .files given => given
  | .below root => (files.walk root).filterMap containerOf?

theorem paths_eq : paths files subject = Path.sorted (askedPaths files subject) := by
  cases subject <;> rfl

theorem containerOf?_eq_some_iff {found : Except AccessError Visit} {path : Path} :
    containerOf? found = some path ↔ found = .ok ⟨path, .file⟩ ∧ KnownExtension path := by
  cases found with
  | error cause => simp only [containerOf?, reduceCtorEq, false_and]
  | ok visit =>
    obtain ⟨other, kind⟩ := visit
    rw [containerOf?, Option.ite_none_right_eq_some, Option.some.injEq, hasContainerExtension_iff,
      Except.ok.injEq, Visit.mk.injEq]
    constructor
    · rintro ⟨⟨regular, known⟩, rfl⟩
      exact ⟨⟨rfl, regular⟩, known⟩
    · rintro ⟨⟨rfl, regular⟩, known⟩
      exact ⟨⟨regular, known⟩, rfl⟩

theorem mem_askedPaths_iff {path : Path} :
    path ∈ askedPaths files subject ↔ Asks files subject path := by
  cases subject with
  | files given => exact Iff.rfl
  | below root =>
    simp only [askedPaths, List.mem_filterMap, containerOf?_eq_some_iff, exists_and_right,
      Asks, ← and_assoc, exists_eq_right]

theorem inspects_paths (files : FileSystem) (subject : Subject) :
    Inspects files subject (paths files subject) := by
  rw [paths_eq]
  exact {
    ascends := Path.pairwise_sorted
    distinct := Path.pairwise_components_sorted
    asked := fun path kept => mem_askedPaths_iff.mp (Path.mem_of_mem_sorted kept)
    covers := fun path asked => Path.exists_mem_sorted (mem_askedPaths_iff.mpr asked)
    exact := by
      intro apart path
      rw [Path.mem_sorted_iff_of_spelledApart, mem_askedPaths_iff]
      exact fun left leftAsked right rightAsked =>
        apart left right (mem_askedPaths_iff.mp leftAsked) (mem_askedPaths_iff.mp rightAsked)
    first := by
      rintro given rfl path kept
      obtain ⟨before, after, parts, unseen⟩ := Path.mem_sorted_iff.mp kept
      exact ⟨before, after, parts, fun earlier member same =>
        unseen (List.mem_map.mpr ⟨earlier, member, same⟩)⟩ }

end Inspect
end CommandLine
end StoryBundle
