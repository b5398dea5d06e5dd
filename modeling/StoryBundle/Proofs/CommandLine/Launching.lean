import StoryBundle.Proofs.CommandLine.Reported

/-!
# What a launch reports

An accepted launch prints the report of its bundle, or nothing but why it fails (`Fails`,
`run_reports_gathered`). A bundle alone is not enough for the first: a JSON document cannot name a
program whose path is not text (`run_unprinted_sample`).
-/

namespace StoryBundle.CommandLine.Launch

/-! ## How a launch ends -/

/-- An environment in which some of the variables for directories are unset instead of empty. -/
def Unset (environment unset : Environment) : Prop :=
  ∀ name, unset name = environment name ∨
    name ∈ ["HOME", "ZCODE_PATH", "QUENDOR_PATH"] ∧ environment name = some [] ∧ unset name = none

variable {files : FileSystem} {environment unset : Environment} {working : Path}
  {all : List Bytes} {arguments : Arguments}

theorem directoryOf?_eq_of_unset (unsets : Unset environment unset) (name : String) :
    SearchDirs.directoryOf? unset name = SearchDirs.directoryOf? environment name := by
  rw [SearchDirs.directoryOf?, SearchDirs.directoryOf?]
  rcases unsets name with same | ⟨_, empty, absent⟩
  · rw [same]
  · rw [empty, absent]
    rfl

theorem run_eq_of_unset (unsets : Unset environment unset) :
    run files unset working all = run files environment working all := by
  have dirs : SearchDirs.ofEnvironment unset working =
      SearchDirs.ofEnvironment environment working := by
    simp only [SearchDirs.ofEnvironment, directoryOf?_eq_of_unset unsets]
  have log : LogFilter.ofEnvironment unset = LogFilter.ofEnvironment environment := by
    have same : unset "RUST_LOG" = environment "RUST_LOG" := by
      rcases unsets "RUST_LOG" with same | ⟨directory, _⟩
      · exact same
      · exact absurd directory (by decide)
    funext verbosity
    rw [LogFilter.ofEnvironment, same, LogFilter.ofEnvironment]
  simp only [run, runWith, dirs, log]

/-- What a launch gathers: the bundle of its request in the directories of its environment. -/
def gathered (files : FileSystem) (environment : Environment) (working : Path)
    (arguments : Arguments) : Except BundleError Bundle :=
  (Bundle.gather files (.ofEnvironment environment working) arguments.request).outcome

/-- Why a launch fails. -/
inductive Fails (files : FileSystem) (environment : Environment) (working : Path)
    (arguments : Arguments) : Failure → Prop
  | ungathered {cause : BundleError}
      (refused : gathered files environment working arguments = .error cause) :
    Fails files environment working arguments ⟨cause.message, cause.causeMessage?⟩
  /-- The bundle is there, but the path of its program cannot stand in a JSON document. -/
  | unwritten {bundle : Bundle} (present : gathered files environment working arguments = .ok bundle)
      (document : arguments.json = true) (damaged : ¬ bundle.story.path.IsText) :
    Fails files environment working arguments unwritten

/-- What is printed in the end, or why nothing is. -/
def ending (files : FileSystem) (environment : Environment) (working : Path)
    (arguments : Arguments) : Except Failure String :=
  (gathered files environment working arguments).mapError failureOf >>= report >>=
    output arguments.json

theorem run_of_ending_error {failure : Failure} (accepted : Arguments.read all = .ok arguments)
    (failed : ending files environment working arguments = .error failure) :
    ∃ log text, failure.Reported text ∧
      run files environment working all = ⟨1, "", log ++ text⟩ := by
  rw [ending, gathered] at failed
  simp only [run, accepted, runWith, failed]
  exact ⟨_, _, Failure.reported_iff.mpr rfl, rfl⟩

theorem run_of_ending_ok {printed : String} (accepted : Arguments.read all = .ok arguments)
    (succeeded : ending files environment working arguments = .ok printed) :
    ∃ log, run files environment working all = ⟨0, printed, log⟩ := by
  rw [ending, gathered] at succeeded
  simp only [run, accepted, runWith, succeeded]
  exact ⟨_, rfl⟩

theorem ending_of_error {cause : BundleError}
    (refused : gathered files environment working arguments = .error cause) :
    ending files environment working arguments = .error ⟨cause.message, cause.causeMessage?⟩ := by
  rw [ending, refused]
  rfl

/-- A bundle that was gathered is reported, and only printing the report can fail. -/
theorem ending_of_ok {bundle : Bundle}
    (present : gathered files environment working arguments = .ok bundle) :
    ∃ report, Report.of bundle = .ok report ∧
      Reports files (.ofEnvironment environment working) arguments.request bundle report ∧
      ending files environment working arguments = output arguments.json report := by
  obtain ⟨told, reported, reports⟩ := exists_report present
  refine ⟨told, reported, reports, ?_⟩
  rw [ending, present]
  change report bundle >>= output arguments.json = _
  rw [report, reported]
  rfl

theorem ending_eq_error_iff {failure : Failure} :
    ending files environment working arguments = .error failure ↔
      Fails files environment working arguments failure := by
  constructor
  · intro failed
    cases ended : gathered files environment working arguments with
    | error cause =>
      rw [ending_of_error ended, Except.error.injEq] at failed
      subst failed
      exact .ungathered ended
    | ok bundle =>
      obtain ⟨told, _, reports, whole⟩ := ending_of_ok ended
      rw [whole] at failed
      obtain ⟨document, damaged, rfl⟩ := output_eq_error_iff.mp failed
      exact .unwritten ended document (reports.path ▸ damaged)
  · intro
    | .ungathered refused => exact ending_of_error refused
    | .unwritten present document damaged =>
      obtain ⟨told, _, reports, whole⟩ := ending_of_ok present
      rw [whole]
      exact output_eq_error_iff.mpr ⟨document, reports.path ▸ damaged, rfl⟩

/-- Something is printed exactly if the bundle is there and its report can be printed. -/
theorem exists_ending_iff :
    (∃ printed, ending files environment working arguments = .ok printed) ↔
      ∃ bundle, gathered files environment working arguments = .ok bundle ∧
        (arguments.json = true → bundle.story.path.IsText) := by
  constructor
  · rintro ⟨printed, succeeded⟩
    cases ended : gathered files environment working arguments with
    | error cause =>
      rw [ending_of_error ended] at succeeded
      cases succeeded
    | ok bundle =>
      refine ⟨bundle, rfl, fun document => by_contra fun damaged => ?_⟩
      rw [ending_eq_error_iff.mpr (.unwritten ended document damaged)] at succeeded
      cases succeeded
  · rintro ⟨bundle, present, spelled⟩
    cases ended : ending files environment working arguments with
    | ok printed => exact ⟨printed, rfl⟩
    | error failure =>
      cases ending_eq_error_iff.mp ended with
      | ungathered refused =>
        rw [present] at refused
        cases refused
      | unwritten also document damaged =>
        rw [present, Except.ok.injEq] at also
        exact absurd (spelled document) (also ▸ damaged)

theorem run_eq_iff_ending {printed : String} (accepted : Arguments.read all = .ok arguments) :
    (run files environment working all).code = 0 ∧
        (run files environment working all).stdout = printed ↔
      ending files environment working arguments = .ok printed := by
  constructor
  · rintro ⟨success, rfl⟩
    cases ended : ending files environment working arguments with
    | error failure =>
      obtain ⟨_, _, _, failed⟩ := run_of_ending_error accepted ended
      rw [failed] at success
      cases success
    | ok printed =>
      obtain ⟨_, succeeded⟩ := run_of_ending_ok accepted ended
      rw [succeeded]
  · intro ended
    obtain ⟨_, succeeded⟩ := run_of_ending_ok accepted ended
    rw [succeeded]
    exact ⟨rfl, rfl⟩

/-- A launch succeeds exactly if its bundle is there and can be printed. -/
theorem code_eq_zero_iff (accepted : Arguments.read all = .ok arguments) :
    (run files environment working all).code = 0 ↔
      ∃ bundle, gathered files environment working arguments = .ok bundle ∧
        (arguments.json = true → bundle.story.path.IsText) := by
  rw [← exists_ending_iff]
  constructor
  · exact fun success => ⟨_, (run_eq_iff_ending accepted).mp ⟨success, rfl⟩⟩
  · rintro ⟨_, ended⟩
    exact ((run_eq_iff_ending accepted).mpr ended).1

/-- An accepted launch succeeds exactly if its bundle can be gathered and, where a JSON document is
asked for, the path of its program is text. Otherwise it prints nothing but the cause. A bundle that was
gathered can always be reported, and what a successful launch prints is its report: what the bundle
holds, with a line or an entry for each of its containers in order. A variable for a directory may be
empty or unset. -/
theorem run_reports_gathered (files : FileSystem) (environment : Environment) (working : Path)
    {all : List Bytes} {arguments : Arguments} (accepted : Arguments.read all = .ok arguments) :
    ((run files environment working all).code = 0 ↔
      ∃ bundle, gathered files environment working arguments = .ok bundle ∧
        (arguments.json = true → bundle.story.path.IsText)) ∧
    ((run files environment working all).code ≠ 0 → ∃ failure log text,
      Fails files environment working arguments failure ∧ failure.Reported text ∧
      run files environment working all = ⟨1, "", log ++ text⟩) ∧
    (∀ bundle, gathered files environment working arguments = .ok bundle →
      ∃ report, Report.of bundle = .ok report ∧
        Reports files (.ofEnvironment environment working) arguments.request bundle report ∧
        ∀ printed, Shows report arguments.json printed ↔
          (run files environment working all).code = 0 ∧
            (run files environment working all).stdout = printed) ∧
    ∀ unset, Unset environment unset →
      run files unset working all = run files environment working all := by
  refine ⟨code_eq_zero_iff accepted, fun failed => ?_, fun bundle present => ?_,
    fun unset => run_eq_of_unset⟩
  · cases ended : ending files environment working arguments with
    | ok printed => exact absurd ((run_eq_iff_ending accepted).mpr ended).1 failed
    | error failure =>
      obtain ⟨log, text, reported, whole⟩ := run_of_ending_error accepted ended
      exact ⟨failure, log, text, ending_eq_error_iff.mp ended, reported, whole⟩
  · obtain ⟨told, reported, reports, whole⟩ := ending_of_ok present
    refine ⟨told, reported, reports, fun printed => ?_⟩
    rw [run_eq_iff_ending accepted, whole, output_eq_ok_iff]

/-- An environment whose only variable is empty. -/
def sampleEnvironment : Environment := fun name => if name = "HOME" then some [] else none

def sampleArguments : List Bytes := ["zork", "-r", "pictures"].map Text.Utf8.encode

/-- The story's own container was not checked, and the one of the pictures is asked for twice. -/
def sampleText : String := String.join [
  "\n",
  "Quendor Z-Machine Interpreter (version: 0.1.0)\n",
  "\n",
  "Program: /s/zork\n",
  "  format: blorb | version: 3 | size: 30 bytes\n",
  "  release: 88 | serial: 840726 | checksum: 0xA129\n",
  "  identity: 88.840726\n",
  "\n",
  "Configuration:\n",
  "  title    -\n",
  "  width    -\n",
  "  height   -\n",
  "  blorb    pictures\n",
  "  terpnum  -\n",
  "\n",
  "Resource files:\n",
  "   0. release 0        1 resources         74 bytes\n",
  "   1. release 0        0 resources         46 bytes (verified)\n"]

def sampleDocument : String := "\n".intercalate [
  "\x7b",
  "  \"program\": \x7b",
  "    \"file\": \"/s/zork\",",
  "    \"format\": \"blorb\",",
  "    \"size\": 30,",
  "    \"version\": 3,",
  "    \"release\": 88,",
  "    \"serial\": \"840726\",",
  "    \"checksum\": 41257,",
  "    \"identity\": \"88.840726\"",
  "  \x7d,",
  "  \"config\": \x7b",
  "    \"title\": \"\",",
  "    \"width\": \"\",",
  "    \"height\": \"\",",
  "    \"blorb\": \"pictures\",",
  "    \"terpnum\": \"\"",
  "  \x7d,",
  "  \"blorbs\": [",
  "    \x7b",
  "      \"release\": 0,",
  "      \"resources\": 1,",
  "      \"size\": 74,",
  "      \"verified\": false",
  "    \x7d,",
  "    \x7b",
  "      \"release\": 0,",
  "      \"resources\": 0,",
  "      \"size\": 46,",
  "      \"verified\": true",
  "    \x7d",
  "  ]",
  "\x7d\n"]

def sampleLog : String :=
  "[WARN  quendor_engine::startup] Byte data match found between blorbs in the list. " ++
    "Removing duplicate at 2.\n"

theorem run_reports_gathered_sample :
    run Bundle.sampleFiles sampleEnvironment "/s" sampleArguments = ⟨0, sampleText, sampleLog⟩ ∧
      run Bundle.sampleFiles sampleEnvironment "/s" (Text.Utf8.encode "--json" :: sampleArguments) =
        ⟨0, sampleDocument, sampleLog⟩ ∧
      (∃ report : Report, Shows report false sampleText ∧ Shows report true sampleDocument ∧
        report.containers.length = 2 ∧ report.details.size = 30 ∧
        report.details.header.title = ⟨"88.840726"⟩) ∧
      run Bundle.sampleFiles (fun _ => none) "/s" sampleArguments =
        ⟨0, sampleText, sampleLog⟩ := by
  have accepted (json : Bool) : Arguments.read ((if json then [Text.Utf8.encode "--json"] else []) ++
      sampleArguments) = .ok ⟨Bundle.sampleRequest, json, 0⟩ := by
    cases json <;> decide +kernel
  have present (json : Bool) : gathered Bundle.sampleFiles sampleEnvironment "/s"
      ⟨Bundle.sampleRequest, json, 0⟩ = .ok Bundle.sampleBundle := by
    cases json <;> decide +kernel
  have printed : run Bundle.sampleFiles sampleEnvironment "/s" sampleArguments =
      ⟨0, sampleText, sampleLog⟩ := by decide +kernel
  have written : run Bundle.sampleFiles sampleEnvironment "/s"
      (Text.Utf8.encode "--json" :: sampleArguments) = ⟨0, sampleDocument, sampleLog⟩ := by
    decide +kernel
  have unsets : Unset sampleEnvironment fun _ => none := by
    intro name
    by_cases home : name = "HOME"
    · subst home
      exact .inr ⟨List.mem_cons_self, rfl, rfl⟩
    · exact .inl (if_neg home).symm
  obtain ⟨_, _, reported, alike⟩ :=
    run_reports_gathered Bundle.sampleFiles sampleEnvironment "/s" (accepted false)
  obtain ⟨_, _, reportedAgain, _⟩ :=
    run_reports_gathered Bundle.sampleFiles sampleEnvironment "/s" (accepted true)
  obtain ⟨report, told, reports, shown⟩ := reported _ (present false)
  obtain ⟨again, toldAgain, _, shownAgain⟩ := reportedAgain _ (present true)
  rw [told, Except.ok.injEq] at toldAgain
  subst toldAgain
  refine ⟨printed, written, ⟨report, (shown _).mpr ?_, (shownAgain _).mpr ?_,
    reports.containers.length_eq.symm, reports.size, reports.identity⟩, (alike _ unsets).trans printed⟩
  · exact ⟨congrArg Outcome.code printed, congrArg Outcome.stdout printed⟩
  · exact ⟨congrArg Outcome.code written, congrArg Outcome.stdout written⟩

/-- A directory whose name is not text. -/
def sampleOdd : Path := ⟨[0x2F, 0xFF]⟩

def sampleOddFiles : FileSystem := Snapshot.fileSystem {
  sights := [(sampleOdd.join "zork", ⟨true, .ok Bundle.sampleProgram⟩),
    (sampleOdd.join ".quendor", ⟨true, .ok []⟩)]
  visits := [] }

def sampleOddBundle : Bundle where
  story := ⟨sampleOdd.join "zork", .wrapped, Bundle.sampleImage⟩
  containers := [⟨Bundle.sampleProgram, [⟨Tag.executable, 0, 36⟩], 0, none⟩]
  settings := Settings.none
  title := ⟨"88.840726"⟩

/-- The bundle is there, and yet the launch fails: no JSON document can name the file of the program. -/
theorem run_unprinted_sample :
    Arguments.read (["zork", "--json"].map Text.Utf8.encode) = .ok ⟨⟨"zork", none, none⟩, true, 0⟩ ∧
      gathered sampleOddFiles (fun _ => none) sampleOdd ⟨⟨"zork", none, none⟩, true, 0⟩ =
        .ok sampleOddBundle ∧
      run sampleOddFiles (fun _ => none) sampleOdd (["zork", "--json"].map Text.Utf8.encode) =
        ⟨1, "", String.join ["Error: serializing startup bundle to JSON\n", "\n", "Caused by:\n",
          "    path contains invalid UTF-8 characters\n"]⟩ := by
  decide +kernel

end StoryBundle.CommandLine.Launch
