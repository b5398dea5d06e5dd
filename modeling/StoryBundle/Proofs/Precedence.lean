import Mathlib.Order.Bounds.Basic
import StoryBundle.FileSystem.Snapshot
import StoryBundle.Proofs.Search

/-!
# Which directory comes first

A search gives the file in the first of the directories that have it. So a list of directories is
searched as its parts are, one after the other (`first?_append`), and what comes after a directory with
the name is not even looked at (`find_append_of_ok`). An absolute name is the same file seen from every
directory (`find_of_isAbsolute`).

The main theorem, `find_precedence`, says this of all lists, and then what it comes to for the standard
directories.
-/

namespace StoryBundle.Search

open SearchDirs (standard storyDirectory)

variable {files : FileSystem} {dirs front back : List Path} {path : Path} {name : String}

/-- Where in the list the directories are in which a name is a regular file. -/
def holders (files : FileSystem) (dirs : List Path) (name : String) : Set Nat :=
  {place | ∃ dir, dirs[place]? = some dir ∧ files.isFile (dir.join name) = true}

/-- The path of a name in a directory, if it is a regular file there. -/
def hit? (files : FileSystem) (name : String) (dir : Path) : Option Path :=
  if files.isFile (dir.join name) = true then some (dir.join name) else none

/-! ## The first place -/

theorem holders_eq_empty_iff : holders files dirs name = ∅ ↔ Absent files dirs name := by
  rw [Set.eq_empty_iff_forall_notMem]
  constructor
  · intro none dir member
    obtain ⟨place, there⟩ := List.mem_iff_getElem?.mp member
    exact Bool.eq_false_iff.mpr fun isFile => none place ⟨dir, there, isFile⟩
  · rintro absent place ⟨dir, there, isFile⟩
    have missing := absent dir (List.mem_of_getElem? there)
    rw [isFile] at missing
    cases missing

/-- The directories before the located one are those at the smaller places. -/
theorem located_iff_isLeast :
    Located files dirs name path ↔
      ∃ place dir, dirs[place]? = some dir ∧ path = dir.join name ∧
        IsLeast (holders files dirs name) place := by
  constructor
  · rintro ⟨before, dir, after, rfl, rfl, isFile, earlier⟩
    have there : (before ++ dir :: after)[before.length]? = some dir := by simp
    refine ⟨before.length, dir, there, rfl, ⟨dir, there, isFile⟩, ?_⟩
    rintro place ⟨other, listed, held⟩
    by_contra sooner
    rw [List.getElem?_append_left (Nat.lt_of_not_le sooner)] at listed
    have missing := earlier other (List.mem_of_getElem? listed)
    rw [held] at missing
    cases missing
  · rintro ⟨place, dir, there, rfl, ⟨holder, also, isFile⟩, least⟩
    obtain rfl : holder = dir := Option.some.inj (also.symm.trans there)
    obtain ⟨inside, at_⟩ := List.getElem?_eq_some_iff.mp there
    refine ⟨dirs.take place, holder, dirs.drop (place + 1), ?_, rfl, isFile, ?_⟩
    · rw [← at_, List.getElem_cons_drop, List.take_append_drop]
    · intro other member
      obtain ⟨sooner, within, rfl⟩ := List.mem_take_iff_getElem.mp member
      refine Bool.eq_false_iff.mpr fun held => ?_
      have bound : place ≤ sooner := least ⟨_, List.getElem?_eq_getElem _, held⟩
      exact absurd within (by omega)

/-! ## Lists one after the other -/

@[simp] theorem toOption_outcome_find :
    (find files dirs name).outcome.toOption = first? files dirs name := by
  rw [find]
  cases first? files dirs name <;> rfl

theorem first?_append :
    first? files (front ++ back) name = (first? files front name).or (first? files back name) := by
  rw [first?, candidates, List.map_append, List.find?_append]
  rfl

theorem first?_singleton (dir : Path) : first? files [dir] name = hit? files name dir := by
  rw [first?, candidates, List.map_singleton, List.find?_singleton]
  rfl

theorem first?_toList (dir? : Option Path) :
    first? files dir?.toList name = dir?.bind (hit? files name) := by
  cases dir? with
  | none => rfl
  | some dir => exact first?_singleton dir

/-- Nothing is looked at after a hit. -/
theorem probed_append_of_find? {left right : List Path} (found : left.find? files.isFile = some path) :
    probed files (left ++ right) = probed files left := by
  induction left with
  | nil => cases found
  | cons candidate rest ih =>
    rw [List.cons_append, probed, probed]
    cases isFile : files.isFile candidate with
    | true => rfl
    | false =>
      rw [List.find?_cons_of_neg (by rw [isFile]; exact Bool.false_ne_true)] at found
      rw [ih found]

/-- A search that ends in the first of two lists is the search of that list alone. -/
theorem find_append_of_ok (found : (find files front name).outcome = .ok path) :
    find files (front ++ back) name = find files front name := by
  have first : first? files front name = some path :=
    first?_eq_some_iff.mpr (find_eq_ok_iff.mp found)
  have whole : first? files (front ++ back) name = some path := by
    rw [first?_append, first, Option.some_or]
  have looked : probed files (candidates (front ++ back) name) =
      probed files (candidates front name) := by
    rw [candidates, List.map_append]
    exact probed_append_of_find? first
  rw [find, find, whole, first, looked]

/-! ## Absolute names -/

theorem join_of_isAbsolute {name : Path} (absolute : name.isAbsolute = true) (dir : Path) :
    dir.join name = name := by
  rw [Path.join, if_pos absolute]

/-- An absolute name is looked for at one path, whatever the directories. -/
theorem find_of_isAbsolute (absolute : Path.isAbsolute name = true) (nonempty : dirs ≠ []) :
    (find files dirs name).outcome =
      if files.isFile name = true then .ok name else .error dirs := by
  cases isFile : files.isFile name with
  | true =>
    obtain ⟨dir, rest, rfl⟩ := List.exists_cons_of_ne_nil nonempty
    refine find_eq_ok_iff.mpr ⟨[], dir, rest, rfl, ?_, isFile, nofun⟩
    rw [join_of_isAbsolute absolute]
  | false =>
    refine find_eq_error_iff.mpr ⟨fun dir _ => ?_, rfl⟩
    rw [join_of_isAbsolute absolute, isFile]

/-! ## The standard directories -/

section

variable (working : Path) (home? stories? shared? : Option Path)

theorem first?_programs :
    first? files (standard working home? stories? shared?).programs name =
      (hit? files name working <|> hit? files name (working.join storyDirectory) <|>
        (home?.bind fun home => hit? files name (home.join storyDirectory)) <|>
        stories?.bind (hit? files name) <|> shared?.bind (hit? files name)) := by
  have below : first? files (home?.map fun home => home.join storyDirectory).toList name =
      home?.bind fun home => hit? files name (home.join storyDirectory) := by
    rw [first?_toList, Option.bind_map]
    rfl
  rw [standard, ← List.singleton_append]
  simp only [first?_append, first?_singleton, first?_toList stories?, first?_toList shared?, below,
    Option.orElse_eq_orElse, Option.orElse_eq_or, Option.or_assoc]

theorem first?_settings :
    first? files (standard working home? stories? shared?).settings name =
      (hit? files name working <|> home?.bind (hit? files name) <|>
        shared?.bind (hit? files name)) := by
  rw [standard]
  simp only [first?_append, first?_singleton, first?_toList, Option.orElse_eq_orElse,
    Option.orElse_eq_or, Option.or_assoc]

end

/-! ## The order of precedence -/

/-- For every file system and every name. A search gives the name in the directory at the least place
at which it is a regular file there, and otherwise it reports all directories. Of two lists one after the
other, the second counts if the first has no hit. An absolute name is found or missed as itself from
every list of directories. So in the standard directories a hit in the working directory, or for
programs in the story directory below it, is the end of the search, whatever the others are. The home
directory comes after these, then the one for stories and then the shared one, and a directory that
is not given is passed over. -/
theorem find_precedence (files : FileSystem) (name : String) :
    (∀ dirs path, (find files dirs name).outcome = .ok path ↔
      ∃ place dir, dirs[place]? = some dir ∧ path = dir.join name ∧
        IsLeast (holders files dirs name) place) ∧
    (∀ dirs checked, (find files dirs name).outcome = .error checked ↔
      holders files dirs name = ∅ ∧ checked = dirs) ∧
    (∀ front back, (find files (front ++ back) name).outcome.toOption =
      ((find files front name).outcome.toOption <|> (find files back name).outcome.toOption)) ∧
    (Path.isAbsolute name = true → ∀ dirs, dirs ≠ [] →
      (find files dirs name).outcome =
        if files.isFile name = true then .ok name else .error dirs) ∧
    ∀ working home? stories? shared?,
      (∀ path, (find files [working, working.join storyDirectory] name).outcome = .ok path →
        find files (standard working home? stories? shared?).programs name =
          find files [working, working.join storyDirectory] name) ∧
      (∀ path, (find files [working] name).outcome = .ok path →
        find files (standard working home? stories? shared?).settings name =
          find files [working] name) ∧
      (find files (standard working home? stories? shared?).programs name).outcome.toOption =
        (hit? files name working <|> hit? files name (working.join storyDirectory) <|>
          (home?.bind fun home => hit? files name (home.join storyDirectory)) <|>
          stories?.bind (hit? files name) <|> shared?.bind (hit? files name)) ∧
      (find files (standard working home? stories? shared?).settings name).outcome.toOption =
        (hit? files name working <|> home?.bind (hit? files name) <|>
          shared?.bind (hit? files name)) := by
  refine ⟨fun dirs path => ?_, fun dirs checked => ?_, fun front back => ?_, fun absolute dirs => ?_,
    fun working home? stories? shared? => ⟨fun path found => ?_, fun path found => ?_, ?_, ?_⟩⟩
  · rw [find_eq_ok_iff, located_iff_isLeast]
  · rw [find_eq_error_iff, holders_eq_empty_iff, eq_comm (a := dirs)]
  · rw [toOption_outcome_find, toOption_outcome_find, toOption_outcome_find, first?_append,
      Option.orElse_eq_orElse, Option.orElse_eq_or]
  · exact find_of_isAbsolute absolute
  · rw [standard, List.append_assoc, List.append_assoc]
    exact find_append_of_ok found
  · rw [standard, List.append_assoc]
    exact find_append_of_ok found
  · rw [toOption_outcome_find, first?_programs]
  · rw [toOption_outcome_find, first?_settings]

/-- A home and a stories directory that both have one tale, and a working directory with settings, with a
maze below it and with a directory that has the tale's name. -/
def sampleShelves : FileSystem :=
  Snapshot.fileSystem
    { sights := [("/home/zcode/tale.z5", ⟨true, .ok []⟩), ("/stories/tale.z5", ⟨true, .ok []⟩),
        ("/work/settings", ⟨true, .ok []⟩), ("/work/zcode/maze.z3", ⟨true, .ok []⟩),
        ("/work/tale.z5", ⟨false, .error .isADirectory⟩)]
      visits := [] }

/-- An absolute name is found from anywhere. The settings and the maze are found at work, wherever else
there may be others, and of the two tales the one below the home directory comes first. -/
theorem find_precedence_sample :
    Path.isAbsolute "/stories/tale.z5" = true ∧ [("/work" : Path)] ≠ [] ∧
      (find sampleShelves ["/work"] "/stories/tale.z5").outcome = .ok "/stories/tale.z5" ∧
      (find sampleShelves ["/work", ("/work" : Path).join storyDirectory] "maze.z3").outcome =
        .ok "/work/zcode/maze.z3" ∧
      (find sampleShelves (standard "/work" (some "/home") (some "/stories") none).programs
        "maze.z3").outcome = .ok "/work/zcode/maze.z3" ∧
      (find sampleShelves ["/work"] "settings").outcome = .ok "/work/settings" ∧
      (find sampleShelves (standard "/work" (some "/home") (some "/stories") none).settings
        "settings").outcome = .ok "/work/settings" ∧
      (find sampleShelves (standard "/work" (some "/home") (some "/stories") none).programs
        "tale.z5").outcome.toOption = some ("/home/zcode/tale.z5" : Path) := by
  have absolute : Path.isAbsolute "/stories/tale.z5" = true := by decide +kernel
  have maze : (find sampleShelves ["/work", ("/work" : Path).join storyDirectory]
      "maze.z3").outcome = .ok "/work/zcode/maze.z3" := by decide +kernel
  have settings : (find sampleShelves ["/work"] "settings").outcome = .ok "/work/settings" := by
    decide +kernel
  obtain ⟨_, _, _, direct, _⟩ := find_precedence sampleShelves "/stories/tale.z5"
  obtain ⟨_, _, _, _, forMaze⟩ := find_precedence sampleShelves "maze.z3"
  obtain ⟨_, _, _, _, forSettings⟩ := find_precedence sampleShelves "settings"
  obtain ⟨_, _, _, _, forTale⟩ := find_precedence sampleShelves "tale.z5"
  obtain ⟨nearest, _⟩ := forMaze "/work" (some "/home") (some "/stories") none
  obtain ⟨_, own, _⟩ := forSettings "/work" (some "/home") (some "/stories") none
  obtain ⟨_, _, inOrder, _⟩ := forTale "/work" (some "/home") (some "/stories") none
  refine ⟨absolute, by decide, ?_, maze, ?_, settings, ?_, ?_⟩
  · rw [direct absolute _ (by decide), if_pos (by decide +kernel)]
  · rw [nearest _ maze, maze]
  · rw [own _ settings, settings]
  · rw [inOrder]
    decide +kernel

end StoryBundle.Search
