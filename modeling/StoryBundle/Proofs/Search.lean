import StoryBundle.Search

/-!
# Where a search ends

`Located` says which path a search is to give, without saying how it is found. The search gives
that path and no other (`find_eq_ok_iff`), or else reports every directory (`find_eq_error_iff`).
-/

namespace StoryBundle.Search

variable {files : FileSystem} {dirs : List Path} {name : String} {path : Path}

/-- A name is a regular file in one of the directories, and in none of those before it. -/
def Located (files : FileSystem) (dirs : List Path) (name : String) (path : Path) : Prop :=
  ∃ before dir after, dirs = before ++ dir :: after ∧ path = dir.join name ∧
    files.isFile path = true ∧ ∀ earlier ∈ before, files.isFile (earlier.join name) = false

/-- A name is a regular file in none of the directories. -/
def Absent (files : FileSystem) (dirs : List Path) (name : String) : Prop :=
  ∀ dir ∈ dirs, files.isFile (dir.join name) = false

theorem first?_eq_some_iff : first? files dirs name = some path ↔ Located files dirs name path := by
  rw [first?, candidates, List.find?_map, Option.map_eq_some_iff]
  constructor
  · rintro ⟨dir, found, rfl⟩
    obtain ⟨isFile, before, after, parts, earlier⟩ := List.find?_eq_some_iff_append.mp found
    exact ⟨before, dir, after, parts, rfl, isFile, fun other member => by
      simpa using earlier other member⟩
  · rintro ⟨before, dir, after, parts, rfl, isFile, earlier⟩
    refine ⟨dir, List.find?_eq_some_iff_append.mpr ⟨isFile, before, after, parts, ?_⟩, rfl⟩
    intro other member
    simpa using earlier other member

theorem first?_eq_none_iff : first? files dirs name = none ↔ Absent files dirs name := by
  simp [first?, candidates, Absent]

theorem find_eq_ok_iff :
    (find files dirs name).outcome = .ok path ↔ Located files dirs name path := by
  rw [← first?_eq_some_iff, find]
  cases first? files dirs name <;> simp

/-- A search in vain reports all directories. -/
theorem find_eq_error_iff {checked : List Path} :
    (find files dirs name).outcome = .error checked ↔ Absent files dirs name ∧ dirs = checked := by
  rw [← first?_eq_none_iff, find]
  cases first? files dirs name <;> simp

theorem Located.not_absent (located : Located files dirs name path) : ¬ Absent files dirs name := by
  rw [← first?_eq_some_iff] at located
  rw [← first?_eq_none_iff, located]
  simp

/-- Only one path can be the first. -/
theorem Located.unique {other : Path} (located : Located files dirs name path)
    (also : Located files dirs name other) : path = other := by
  rw [← first?_eq_some_iff] at located also
  exact Option.some.inj (located.symm.trans also)

end StoryBundle.Search
