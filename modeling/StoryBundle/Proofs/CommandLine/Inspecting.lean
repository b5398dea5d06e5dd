import StoryBundle.Container.Layout
import StoryBundle.FileSystem.Snapshot
import StoryBundle.Proofs.CommandLine.Listed
import StoryBundle.Proofs.CommandLine.Selected

/-!
# All containers or none

`Ends` says what comes of inspecting paths: nothing is printed but a failure, or all listings are. A run
ends so and in no other way, and what was asked for decides it, not how often or in which order
(`run_all_or_nothing`). Two things stand between a container and its listing (`run_unlisted_sample`): a
path that is not text has no JSON form, and a walk passes over what it cannot enter.
-/

namespace StoryBundle.CommandLine.Inspect

variable {files : FileSystem} {subject : Subject}

/-! ## How an inspection ends -/

/-- What comes of inspecting paths: a failure and nothing else, or the listings of all of them. -/
inductive Ends (files : FileSystem) (json : Bool) (inspected : List Path) : Outcome → Prop
  | nothing (empty : inspected = []) :
    Ends files json inspected ⟨1, "", "Error: no Blorb files to inspect\n"⟩
  /-- The first path that cannot be listed is reported. -/
  | failed {before after : List Path} {path : Path} {failure : Failure} {stderr : String}
      (parts : inspected = before ++ path :: after)
      (passed : ∀ earlier ∈ before, ∃ listing, Listed files earlier listing)
      (fails : Fails files path failure) (reported : failure.Reported stderr) :
    Ends files json inspected ⟨1, "", stderr⟩
  /-- Each path can be listed, but one of them cannot stand in a JSON document. -/
  | unwritten {all : List Listing} {stderr : String} (document : json = true)
      (each : List.Forall₂ (Listed files) inspected all)
      (damaged : ∃ path ∈ inspected, ¬ path.IsText) (reported : unwritten.Reported stderr) :
    Ends files json inspected ⟨1, "", stderr⟩
  | listed {all : List Listing} {stdout : String} (present : inspected ≠ [])
      (each : List.Forall₂ (Listed files) inspected all) (printed : Prints all json stdout) :
    Ends files json inspected ⟨0, stdout, ""⟩

theorem listings_of_nil (empty : paths files subject = []) :
    listings files subject = .error ⟨"no Blorb files to inspect", none⟩ := by
  rw [listings, empty]

theorem listings_of_ne_nil (present : paths files subject ≠ []) :
    listings files subject = (paths files subject).mapM (Listing.read files) := by
  unfold listings
  split
  · exact absurd ‹_› present
  · rfl

theorem listings_eq_ok_iff {all : List Listing} :
    listings files subject = .ok all ↔
      paths files subject ≠ [] ∧ List.Forall₂ (Listed files) (paths files subject) all := by
  by_cases empty : paths files subject = []
  · simp only [listings_of_nil empty, reduceCtorEq, ne_eq, empty, not_true_eq_false, false_and]
  · simp only [listings_of_ne_nil empty, Except.mapM_eq_ok_iff, read_eq_ok_iff, ne_eq, empty,
      not_false_eq_true, true_and]

theorem listings_eq_error_iff {failure : Failure} :
    listings files subject = .error failure ↔
      paths files subject = [] ∧ failure = ⟨"no Blorb files to inspect", none⟩ ∨
      ∃ before path after, paths files subject = before ++ path :: after ∧
        (∀ earlier ∈ before, ∃ listing, Listed files earlier listing) ∧ Fails files path failure := by
  by_cases empty : paths files subject = []
  · have none : ∀ before path after, [] ≠ before ++ path :: (after : List Path) := by simp
    simp only [listings_of_nil empty, Except.error.injEq, empty, true_and, none, false_and,
      exists_false, or_false, eq_comm]
  · simp only [listings_of_ne_nil empty, Except.mapM_eq_error_iff, read_eq_ok_iff,
      read_eq_error_iff, empty, false_and, false_or]

section

variable {arguments : Arguments}

theorem runWith_of_error {failure : Failure} {stderr : String}
    (failed : listings files arguments.subject >>= output arguments.json = .error failure)
    (reported : failure.Reported stderr) : runWith files arguments = ⟨1, "", stderr⟩ := by
  rw [runWith, failed, ← Failure.reported_iff.mp reported]
  exact congrArg (Outcome.mk 1 "") String.empty_append

theorem runWith_of_ok {printed : String}
    (succeeded : listings files arguments.subject >>= output arguments.json = .ok printed) :
    runWith files arguments = ⟨0, printed, ""⟩ := by
  rw [runWith, succeeded]
  rfl

theorem ends_runWith (files : FileSystem) (arguments : Arguments) :
    Ends files arguments.json (paths files arguments.subject) (runWith files arguments) := by
  cases ended : listings files arguments.subject >>= output arguments.json with
  | ok printed =>
    rw [runWith_of_ok ended]
    obtain ⟨all, listed, printed⟩ := Except.bind_eq_ok_iff.mp ended
    obtain ⟨present, each⟩ := listings_eq_ok_iff.mp listed
    exact .listed present each (output_eq_ok_iff.mp printed)
  | error failure =>
    have reported : failure.Reported failure.report := Failure.reported_iff.mpr rfl
    rw [runWith_of_error ended reported]
    rcases Except.bind_eq_error_iff.mp ended with failed | ⟨all, listed, failed⟩
    · rcases listings_eq_error_iff.mp failed with ⟨empty, rfl⟩ | ⟨_, _, _, parts, passed, fails⟩
      · exact .nothing empty
      · exact .failed parts passed fails reported
    · obtain ⟨document, damaged, rfl⟩ := output_eq_error_iff.mp failed
      obtain ⟨_, each⟩ := listings_eq_ok_iff.mp listed
      exact .unwritten document each ((exists_damaged_iff each).mp damaged) reported

/-- Nothing else can come of the paths that a run inspects. -/
theorem Ends.runWith_eq {outcome : Outcome}
    (ends : Ends files arguments.json (paths files arguments.subject) outcome) :
    runWith files arguments = outcome := by
  cases ends with
  | nothing empty =>
    refine runWith_of_error (Except.bind_eq_error_iff.mpr (.inl (listings_of_nil empty))) ?_
    exact Failure.reported_iff.mpr rfl
  | failed parts passed fails reported =>
    have failed := listings_eq_error_iff.mpr (.inr ⟨_, _, _, parts, passed, fails⟩)
    exact runWith_of_error (Except.bind_eq_error_iff.mpr (.inl failed)) reported
  | unwritten document each damaged reported =>
    have present : paths files arguments.subject ≠ [] := by
      obtain ⟨path, member, _⟩ := damaged
      exact List.ne_nil_of_mem member
    have listed := listings_eq_ok_iff.mpr ⟨present, each⟩
    have refused := output_eq_error_iff.mpr ⟨document, (exists_damaged_iff each).mpr damaged, rfl⟩
    exact runWith_of_error (Except.bind_eq_error_iff.mpr (.inr ⟨_, listed, refused⟩)) reported
  | listed present each printed =>
    have listed := listings_eq_ok_iff.mpr ⟨present, each⟩
    exact runWith_of_ok (Except.bind_eq_ok_iff.mpr ⟨_, listed, output_eq_ok_iff.mpr printed⟩)

end

/-- An inspection ends well exactly if there is something to inspect, all of it can be listed, and all
paths can stand in a JSON document if that is asked for. -/
theorem Ends.code_eq_zero_iff {json : Bool} {inspected : List Path} {outcome : Outcome}
    (ends : Ends files json inspected outcome) :
    outcome.code = 0 ↔ inspected ≠ [] ∧ (∀ path ∈ inspected, ∃ listing, Listed files path listing) ∧
      (json = true → ∀ path ∈ inspected, path.IsText) := by
  cases ends with
  | nothing empty => simp [empty]
  | @failed before after path failure _ parts passed fails reported =>
    have member : path ∈ inspected := parts ▸ List.mem_append_right _ List.mem_cons_self
    have unlisted : ¬ ∃ listing, Listed files path listing := by
      rintro ⟨listing, listed⟩
      have read := read_eq_ok_iff.mpr listed
      rw [read_eq_error_iff.mpr fails] at read
      cases read
    simp only [Nat.one_ne_zero, false_iff, not_and]
    exact fun _ all => absurd (all path member) unlisted
  | unwritten document each damaged reported =>
    obtain ⟨path, member, damaged⟩ := damaged
    simp only [Nat.one_ne_zero, false_iff, not_and]
    exact fun _ _ all => damaged (all document path member)
  | @listed all stdout present each printed =>
    rw [eq_self, true_iff]
    refine ⟨present, fun path member => ?_, fun document path member => ?_⟩
    · obtain ⟨listing, _, listed⟩ := exists_of_forall₂ each member
      exact ⟨listing, listed⟩
    · obtain ⟨listing, told, listed⟩ := exists_of_forall₂ each member
      subst document
      obtain _ | described := printed
      obtain ⟨_, _, text, spelled, _⟩ := exists_of_forall₂ described told
      exact ⟨text, spelled.trans listed.path_eq⟩

/-! ## Arguments -/

/-- A list of files as arguments: behind two dashes every argument stands for itself. -/
def fileArguments (json : Bool) (given : List Path) : List Bytes :=
  (if json then [Text.Utf8.encode "--json"] else []) ++ Text.Utf8.encode "--" :: given.map Path.bytes

/-- A path as an argument that has been read. -/
def wordOf (path : Path) : Argument := .word (.path path)

theorem take_word {path : Path} (named : path.bytes ≠ []) (earlier : List Argument) :
    grammar.take ⟨earlier, none, true⟩ path.bytes = .ok ⟨earlier ++ [wordOf path], none, true⟩ := by
  simp [Grammar.take, Grammar.takeWord, grammar, Kind.value?, named, wordOf]

theorem foldlM_take_words {given : List Path} (named : ∀ path ∈ given, path.bytes ≠ [])
    (earlier : List Argument) :
    (given.map Path.bytes).foldlM grammar.take ⟨earlier, none, true⟩ =
      .ok ⟨earlier ++ given.map wordOf, none, true⟩ := by
  induction given generalizing earlier with
  | nil => rw [List.map_nil, List.map_nil, List.append_nil]; rfl
  | cons path rest ih =>
    obtain ⟨first, later⟩ := List.forall_mem_cons.mp named
    rw [List.map_cons, List.foldlM_cons, take_word first, Except.ok_bind_eq, ih later,
      List.append_assoc]
    rfl

theorem grammar_read_fileArguments (json : Bool) {given : List Path}
    (named : ∀ path ∈ given, path.bytes ≠ []) :
    grammar.read (fileArguments json given) =
      .ok ((if json then [.option "json" none] else []) ++ given.map wordOf) := by
  have dashes (earlier : List Argument) :
      grammar.take ⟨earlier, none, false⟩ (Text.Utf8.encode "--") = .ok ⟨earlier, none, true⟩ := rfl
  have flag : grammar.take ⟨[], none, false⟩ (Text.Utf8.encode "--json") =
      .ok ⟨[.option "json" none], none, false⟩ := by decide +kernel
  cases json with
  | false =>
    change grammar.read (Text.Utf8.encode "--" :: given.map Path.bytes) = _
    rw [Grammar.read, List.foldlM_cons, dashes, Except.ok_bind_eq, foldlM_take_words named]
    rfl
  | true =>
    change grammar.read (Text.Utf8.encode "--json" :: Text.Utf8.encode "--" :: given.map Path.bytes) = _
    rw [Grammar.read, List.foldlM_cons, flag, Except.ok_bind_eq, List.foldlM_cons, dashes,
      Except.ok_bind_eq, foldlM_take_words named]
    rfl

/-- Every list of paths that are not empty can be given as the list of files. -/
theorem read_fileArguments (json : Bool) {given : List Path}
    (named : ∀ path ∈ given, path.bytes ≠ []) :
    Arguments.read (fileArguments json given) = .ok ⟨.files given, json⟩ := by
  have noRoot : (given.map wordOf).findSome? (Argument.valueOf? "root") = none := by
    simp [Argument.valueOf?, wordOf]
  have all : ((given.map wordOf).filterMap Argument.word?).filterMap Value.path? = given := by
    simp [List.filterMap_map, Function.comp_def, Argument.word?, Value.path?, wordOf]
  have noFlag : (given.map wordOf).any (Argument.isOption "json") = false := by
    simp [Argument.isOption, wordOf]
  rw [Arguments.read, grammar_read_fileArguments json named, Except.ok_bind_eq]
  cases json with
  | false =>
    change Arguments.ofList (given.map wordOf) = _
    rw [Arguments.ofList, noRoot, all, noFlag]
    rfl
  | true =>
    have noRoot' : (Argument.option "json" none :: given.map wordOf).findSome?
        (Argument.valueOf? "root") = none := noRoot
    have all' : ((Argument.option "json" none :: given.map wordOf).filterMap
        Argument.word?).filterMap Value.path? = given := all
    change Arguments.ofList (.option "json" none :: given.map wordOf) = _
    rw [Arguments.ofList, noRoot', all']
    rfl

theorem run_eq {all : List Bytes} {arguments : Arguments}
    (accepted : Arguments.read all = .ok arguments) : run files all = runWith files arguments := by
  rw [run, accepted]

/-- An accepted run inspects what its arguments ask for, each container once and in order. Nothing but
what `Ends` says comes of that: the listings of all of them are printed, or nothing but a failure. It
succeeds exactly if there is something to inspect, all of it can be listed, and each path is text if a
JSON document is asked for. For files whose components are not spelled in two ways only the set of them
matters, and each list of paths that are not empty is one of accepted arguments. -/
theorem run_all_or_nothing (files : FileSystem) {all : List Bytes} {arguments : Arguments}
    (accepted : Arguments.read all = .ok arguments) :
    (∃ inspected, Inspects files arguments.subject inspected ∧
      (∀ outcome, Ends files arguments.json inspected outcome ↔ run files all = outcome) ∧
      ((run files all).code = 0 ↔
        inspected ≠ [] ∧ (∀ path ∈ inspected, ∃ listing, Listed files path listing) ∧
          (arguments.json = true → ∀ path ∈ inspected, path.IsText))) ∧
    (∀ given again others, arguments.subject = .files given → Path.SpelledApart given →
      (∀ path, path ∈ again ↔ path ∈ given) →
      Arguments.read others = .ok ⟨.files again, arguments.json⟩ →
      run files others = run files all) ∧
    ∀ given : List Path, (∀ path ∈ given, path.bytes ≠ []) →
      Arguments.read (fileArguments arguments.json given) = .ok ⟨.files given, arguments.json⟩ := by
  have ends := ends_runWith files arguments
  have ends_iff (outcome : Outcome) :
      Ends files arguments.json (paths files arguments.subject) outcome ↔
        run files all = outcome := by
    rw [run_eq accepted]
    exact ⟨Ends.runWith_eq, fun same => same ▸ ends⟩
  rw [← run_eq accepted] at ends
  refine ⟨⟨_, inspects_paths files arguments.subject, ends_iff, ends.code_eq_zero_iff⟩, ?_,
    fun given => read_fileArguments arguments.json⟩
  intro given again others subject apart same read
  have paths_eq : paths files (.files again) = paths files arguments.subject := by
    rw [subject]
    exact Path.sorted_congr apart same
  have listings_eq : listings files (.files again) = listings files arguments.subject := by
    rw [listings, paths_eq, listings]
  rw [run_eq read, run_eq accepted, runWith, runWith, listings_eq]

/-- The tags of pictures and sounds, and of the chunk that a picture stands in. -/
def samplePict : Tag := ⟨0x50, 0x69, 0x63, 0x74⟩

def sampleSound : Tag := ⟨0x53, 0x6E, 0x64, 0x20⟩

def sampleChunk : Tag := ⟨0x50, 0x4E, 0x47, 0x20⟩

/-- A container with one picture, and one with a release number whose index lists a sound first. -/
def sampleOne : Bytes := Layout.file [⟨samplePict, 2, ⟨sampleChunk, []⟩⟩] []

def sampleTwo : Bytes :=
  Layout.file [⟨sampleSound, 3, ⟨sampleChunk, [1, 2, 3]⟩⟩, ⟨samplePict, 70000, ⟨sampleChunk, [4]⟩⟩]
    [⟨Tag.releaseNumber, [0, 7]⟩]

/-- A directory with the two containers, and with a text, a directory, a link and a place that cannot be
entered. -/
def sampleFiles : FileSystem := Snapshot.fileSystem {
  sights := [("r/a.BLB", ⟨true, .ok sampleOne⟩), ("r/é.blorb", ⟨true, .ok sampleTwo⟩)]
  visits := [.ok ⟨"r", .directory⟩, .ok ⟨"r/é.blorb", .file⟩, .ok ⟨"r/notes", .file⟩,
    .ok ⟨"r/d.blb", .directory⟩, .error .permissionDenied, .ok ⟨"r/l.blb", .other⟩,
    .ok ⟨"r/a.BLB", .file⟩] }

def sampleText : String := String.join [
  "1 entries in r/a.BLB (release 0, 44 bytes)\n",
  "Pict      2         36\n",
  "2 entries in r/é.blorb (release 7, 80 bytes)\n",
  "Pict  70000         60\n",
  "Snd       3         48\n"]

def sampleDocument : String := "\n".intercalate [
  "[",
  "  \x7b",
  "    \"path\": \"r/a.BLB\",",
  "    \"size\": 44,",
  "    \"release\": 0,",
  "    \"resources\": [",
  "      \x7b",
  "        \"usage\": \"Pict\",",
  "        \"number\": 2,",
  "        \"start\": 36",
  "      \x7d",
  "    ]",
  "  \x7d,",
  "  \x7b",
  "    \"path\": \"r/é.blorb\",",
  "    \"size\": 80,",
  "    \"release\": 7,",
  "    \"resources\": [",
  "      \x7b",
  "        \"usage\": \"Pict\",",
  "        \"number\": 70000,",
  "        \"start\": 60",
  "      \x7d,",
  "      \x7b",
  "        \"usage\": \"Snd \",",
  "        \"number\": 3,",
  "        \"start\": 48",
  "      \x7d",
  "    ]",
  "  \x7d",
  "]\n"]

/-- The two containers as they come, and in order. -/
def sampleGiven : List Path := ["r/é.blorb", "r/a.BLB"]

def sampleInOrder : List Path := ["r/a.BLB", "r/é.blorb"]

theorem perm_sample : sampleInOrder.Perm sampleGiven := List.Perm.swap _ _ _

theorem spelledApart_sampleGiven : Path.SpelledApart sampleGiven := by
  unfold Path.SpelledApart
  decide +kernel

theorem sorted_sampleGiven : Path.sorted sampleGiven = sampleInOrder := by
  refine Path.eq_of_pairwise_order Path.pairwise_sorted (by decide +kernel) fun path => ?_
  rw [Path.mem_sorted_iff_of_spelledApart spelledApart_sampleGiven, perm_sample.mem_iff]

theorem run_all_or_nothing_sample :
    run sampleFiles (["--root", "r"].map Text.Utf8.encode) = ⟨0, sampleText, ""⟩ ∧
      run sampleFiles (fileArguments true sampleGiven) = ⟨0, sampleDocument, ""⟩ ∧
      run sampleFiles (fileArguments true (sampleInOrder ++ sampleGiven)) =
        ⟨0, sampleDocument, ""⟩ ∧
      (∃ inspected, Inspects sampleFiles (.below "r") inspected ∧
        ∀ path ∈ inspected, ∃ listing, Listed sampleFiles path listing) ∧
      ∃ inspected, Inspects sampleFiles (.files sampleGiven) inspected ∧
        Ends sampleFiles true inspected ⟨0, sampleDocument, ""⟩ ∧
        ∀ path ∈ inspected, path.IsText := by
  have below : Arguments.read (["--root", "r"].map Text.Utf8.encode) = .ok ⟨.below "r", false⟩ := by
    decide +kernel
  have given : Arguments.read (fileArguments true sampleGiven) = .ok ⟨.files sampleGiven, true⟩ :=
    read_fileArguments true (by decide +kernel)
  have walked : askedPaths sampleFiles (.below "r") = sampleGiven := by decide +kernel
  have printed : run sampleFiles (["--root", "r"].map Text.Utf8.encode) = ⟨0, sampleText, ""⟩ := by
    rw [run_eq below, runWith, listings, paths_eq, walked, sorted_sampleGiven]
    decide +kernel
  have written : run sampleFiles (fileArguments true sampleGiven) = ⟨0, sampleDocument, ""⟩ := by
    rw [run_eq given, runWith, listings, paths_eq, askedPaths, sorted_sampleGiven]
    decide +kernel
  have same (path : Path) : path ∈ sampleInOrder ++ sampleGiven ↔ path ∈ sampleGiven := by
    rw [List.mem_append, perm_sample.mem_iff, or_self]
  obtain ⟨⟨inspected, inspects, _, success⟩, _⟩ := run_all_or_nothing sampleFiles below
  obtain ⟨⟨again, inspectsAgain, ends_iff, successAgain⟩, repeated, spelled⟩ :=
    run_all_or_nothing sampleFiles given
  obtain ⟨_, listed, _⟩ := success.mp (congrArg Outcome.code printed)
  obtain ⟨_, _, texts⟩ := successAgain.mp (congrArg Outcome.code written)
  have alike := repeated _ _ _ rfl spelledApart_sampleGiven same
    (spelled (sampleInOrder ++ sampleGiven) (by decide +kernel))
  exact ⟨printed, written, alike.trans written, ⟨inspected, inspects, listed⟩, again,
    inspectsAgain, (ends_iff _).mpr written, texts rfl⟩

/-- A file whose name is not text, and a directory `r/d` whose files can be read, but not their names. -/
def sampleOdd : FileSystem := Snapshot.fileSystem {
  sights := [(⟨[0xFF]⟩, ⟨true, .ok sampleOne⟩), ("r/a.blb", ⟨true, .ok sampleOne⟩),
    ("r/d/b.blb", ⟨true, .ok sampleTwo⟩)]
  visits := [.ok ⟨"r", .directory⟩, .ok ⟨"r/a.blb", .file⟩, .ok ⟨"r/d", .directory⟩,
    .error .permissionDenied] }

/-- The only path that is inspected can be listed, and yet no JSON document is printed. A container
below the root can be listed, and yet it is left out, since the walk does not come by it. -/
theorem run_unlisted_sample :
    ((∃ listing, Listed sampleOdd ⟨[0xFF]⟩ listing) ∧
      Inspects sampleOdd (.files [⟨[0xFF]⟩]) [⟨[0xFF]⟩] ∧
      run sampleOdd [Text.Utf8.encode "--json", [0xFF]] =
        ⟨1, "", String.join ["Error: serializing Blorb listing to JSON\n", "\n", "Caused by:\n",
          "    path contains invalid UTF-8 characters\n"]⟩) ∧
    ((∃ listing, Listed sampleOdd "r/d/b.blb" listing) ∧
      sampleOdd.isFile "r/d/b.blb" = true ∧ KnownExtension "r/d/b.blb" ∧
      run sampleOdd (["--root", "r"].map Text.Utf8.encode) =
        ⟨0, "1 entries in r/a.blb (release 0, 44 bytes)\nPict      2         36\n", ""⟩) := by
  have given : Arguments.read [Text.Utf8.encode "--json", [0xFF]] =
      .ok ⟨.files [⟨[0xFF]⟩], true⟩ := by decide +kernel
  have below : Arguments.read (["--root", "r"].map Text.Utf8.encode) = .ok ⟨.below "r", false⟩ := by
    decide +kernel
  have walked : askedPaths sampleOdd (.below "r") = [("r/a.blb" : Path)] := by decide +kernel
  have single (path : Path) : Path.sorted [path] = [path] := List.mergeSort_singleton path
  have only : paths sampleOdd (.files [⟨[0xFF]⟩]) = [⟨[0xFF]⟩] := single _
  have named : Listing.read sampleOdd ⟨[0xFF]⟩ =
      .ok ⟨⟨[0xFF]⟩, 44, 0, [⟨samplePict, 2, 36⟩]⟩ := by decide +kernel
  have omitted : Listing.read sampleOdd "r/d/b.blb" =
      .ok ⟨"r/d/b.blb", 80, 7, [⟨samplePict, 70000, 60⟩, ⟨sampleSound, 3, 48⟩]⟩ := by decide +kernel
  refine ⟨⟨⟨_, read_eq_ok_iff.mp named⟩, ?_, ?_⟩, ⟨_, read_eq_ok_iff.mp omitted⟩,
    by decide +kernel, hasContainerExtension_iff.mp (by decide +kernel), ?_⟩
  · have inspects := inspects_paths sampleOdd (.files [⟨[0xFF]⟩])
    rwa [only] at inspects
  · rw [run_eq given, runWith, listings, only]
    decide +kernel
  · rw [run_eq below, runWith, listings, paths_eq, walked, single]
    decide +kernel

end StoryBundle.CommandLine.Inspect
