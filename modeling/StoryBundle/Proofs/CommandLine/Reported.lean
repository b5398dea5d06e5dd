import StoryBundle.CommandLine.Launch
import StoryBundle.Proofs.Bundle.Gathering
import StoryBundle.Proofs.CommandLine.Printed
import StoryBundle.Proofs.Container.Listing
import StoryBundle.Proofs.Story.Basic
import StoryBundle.Proofs.Text.Digits

/-!
# What is reported of a bundle

A bundle that could be gathered can be reported (`exists_report`): its story has a header, so its
details are there (`Story.details_of_long`), and each of its containers was decoded
(`Parts.Fit.decoded`), so that its summary says what is in its file (`summarizes_of`). `Shows` says what
is printed of a report, and only a path that is not text can keep it from that (`output_eq_error_iff`).
-/

namespace StoryBundle

/-! ## Stories and containers of a bundle -/

/-- The image that is taken out of a program file's bytes. -/
def Story.Extracted (data image : Bytes) : Prop :=
  Packaging.detect data = .ok .bare ∧ image = data ∨
  Packaging.detect data = .ok .wrapped ∧ ∃ container,
    (Container.decode data none).outcome = .ok container ∧
    (container.executable mainProgram).outcome = .ok image

theorem Story.Found.extracted {files : FileSystem} {dirs : SearchDirs} {name : String}
    {loaded : LoadedStory} (found : Story.Found files dirs name loaded) :
    ∃ data, Search.Located files dirs.programs name loaded.story.path ∧
      files.read loaded.story.path = .ok data ∧ Story.Extracted data loaded.story.image := by
  obtain ⟨path, data, located, content, decoded⟩ := found
  rcases Story.ofBytes_eq_ok_iff.mp decoded with
    ⟨bare, rfl⟩ | ⟨wrapped, container, image, unwrapped, program, rfl⟩
  · exact ⟨data, located, content, .inl ⟨bare, rfl⟩⟩
  · exact ⟨data, located, content, .inr ⟨wrapped, container, unwrapped, program⟩⟩

/-- An image as long as a header has details. -/
theorem Story.details_of_long {story : Story} (enough : Header.size ≤ story.image.length) :
    story.details =
      .ok ⟨story.path, story.packaging, story.image.length, Header.ofFront story.image⟩ := by
  rw [details, header, Header.read_eq_ok_iff.mpr ⟨enough, rfl⟩]
  rfl

/-- A container is what its own bytes decode to. -/
def Container.Decoded (container : Container) : Prop :=
  ∃ reference, (decode container.data reference).outcome = .ok container

theorem Container.Found.decoded {files : FileSystem} {dirs : SearchDirs} {name : String}
    {reference : Option Bytes} {container : Container}
    (found : Container.Found files dirs reference name container) : container.Decoded := by
  obtain ⟨_, data, _, _, decoded⟩ := found
  obtain ⟨_, _, _, _, _, same, _⟩ := decode_eq_ok_iff.mp decoded
  exact ⟨reference, same ▸ decoded⟩

theorem Story.Found.decoded {files : FileSystem} {dirs : SearchDirs} {name : String}
    {loaded : LoadedStory} (found : Story.Found files dirs name loaded) :
    ∀ own ∈ loaded.container?, own.Decoded := by
  obtain ⟨_, _, _, _, decoded⟩ := found
  rcases Story.ofBytes_eq_ok_iff.mp decoded with ⟨_, rfl⟩ | ⟨_, container, _, unwrapped, _, rfl⟩
  · rintro _ ⟨⟩
  · rintro _ ⟨⟩
    obtain ⟨_, _, _, _, _, same, _⟩ := Container.decode_eq_ok_iff.mp unwrapped
    exact ⟨none, same ▸ unwrapped⟩

namespace Bundle

variable {files : FileSystem} {dirs : SearchDirs} {request : Request}

theorem decoded_of_rel {reference : Option Bytes} {name? : Option String}
    {container? : Option Container}
    (loaded : Option.Rel (Container.Found files dirs reference) name? container?) :
    ∀ container ∈ container?, container.Decoded := by
  cases loaded with
  | none => rintro _ ⟨⟩
  | some found =>
    rintro _ ⟨⟩
    exact found.decoded

theorem Parts.Fit.decoded {parts : Parts} (fit : parts.Fit files dirs request) :
    ∀ container ∈ parts.containers, container.Decoded := by
  intro container member
  simp only [containers, List.mem_append, Option.mem_toList] at member
  rcases member with (own | supplied) | configured
  · exact fit.program.decoded container own
  · exact decoded_of_rel fit.supplied container supplied
  · exact decoded_of_rel fit.configured container configured

theorem decoded_of_gather {bundle : Bundle}
    (gathered : (gather files dirs request).outcome = .ok bundle) :
    ∀ container ∈ bundle.containers, container.Decoded := by
  obtain ⟨parts, fit, rfl⟩ := gather_eq_ok_iff.mp gathered
  intro container kept
  exact fit.decoded container ((firstOfEach_sublist parts.containers).subset kept)

end Bundle

/-! ## Reports -/

namespace CommandLine

/-- A summary tells the release and the size of a container, how many keys the rows in its file have,
and whether a story was recorded as its reference. -/
structure Summarizes (container : Container) (summary : ContainerSummary) : Prop where
  release : summary.release = container.release
  keys : ∃ rows, Index.RowsIn container.data rows ∧ container.index.Lists rows ∧
    summary.resources = (rows.map Entry.key).dedup.length
  size : summary.size = container.data.length
  verified : summary.verified = true ↔ ∃ story, container.reference = some story

theorem summarizes_of {container : Container} (decoded : container.Decoded) :
    Summarizes container (.of container) := by
  obtain ⟨_, decoded⟩ := decoded
  obtain ⟨rows, spelled, lists⟩ := Container.exists_rowsIn_of_decode decoded
  exact {
    release := rfl
    keys := ⟨rows, spelled, lists, lists.length_eq⟩
    size := rfl
    verified := Option.isSome_iff_exists }

/-- What is reported of a bundle that a request leads to. -/
structure Reports (files : FileSystem) (dirs : SearchDirs) (request : Request) (bundle : Bundle)
    (report : Report) : Prop where
  details : bundle.story.details = .ok report.details
  path : report.details.path = bundle.story.path
  identity : report.details.header.title = bundle.title
  size : report.details.size = bundle.story.image.length
  program : ∃ data, Search.Located files dirs.programs request.program report.details.path ∧
    files.read report.details.path = .ok data ∧ Story.Extracted data bundle.story.image
  title : report.title = bundle.title
  settings : report.settings = bundle.settings
  containers : List.Forall₂ Summarizes bundle.containers report.containers

theorem exists_report {files : FileSystem} {dirs : SearchDirs} {request : Request} {bundle : Bundle}
    (gathered : (Bundle.gather files dirs request).outcome = .ok bundle) :
    ∃ report, Report.of bundle = .ok report ∧ Reports files dirs request bundle report := by
  have decoded := Bundle.decoded_of_gather gathered
  obtain ⟨parts, fit, rfl⟩ := Bundle.gather_eq_ok_iff.mp gathered
  have details := Story.details_of_long fit.header
  refine ⟨_, by rw [Report.of, details]; rfl, ?_⟩
  exact {
    details
    path := rfl
    identity := rfl
    size := rfl
    program := fit.program.extracted
    title := rfl
    settings := rfl
    containers := by
      rw [List.forall₂_map_right_iff, List.forall₂_same]
      exact fun container kept => summarizes_of (decoded container kept) }

/-! ## How a report is printed -/

/-- A digit in base sixteen, in capital letters. -/
def IsCapitalDigit (digit : Nat) (c : Char) : Prop := "0123456789ABCDEF".toList[digit]? = some c

/-- Four digits in base sixteen spell a number. -/
def SpellsChecksum (checksum : UInt16) (text : String) : Prop :=
  List.Forall₂ IsCapitalDigit [checksum.toNat / 4096, checksum.toNat / 256 % 16,
    checksum.toNat / 16 % 16, checksum.toNat % 16] text.toList

/-- The row of a setting: its name to the left of eight columns, and its value or a dash. -/
def SettingRow (setting : String × String) (row : String) : Prop :=
  ∃ name, Text.AtLeft 8 setting.1 name ∧
    row = "  " ++ name ++ " " ++ (if setting.2 = "" then "-" else setting.2) ++ "\n"

/-- The row of a container: its position to the right of two columns, its release to the left of five,
the number of its resources to the right of four and its size to the right of ten. -/
def ContainerRow (position : Nat) (summary : ContainerSummary) (row : String) : Prop :=
  ∃ place release resources size, Text.AtRight 2 (toString position) place ∧
    Text.AtLeft 5 (toString summary.release.toNat) release ∧
    Text.AtRight 4 (toString summary.resources) resources ∧
    Text.AtRight 10 (toString summary.size) size ∧
    row = "  " ++ place ++ ". release " ++ release ++ " " ++ resources ++ " resources " ++ size ++
      " bytes" ++ (if summary.verified = true then " (verified)" else "") ++ "\n"

/-- The paragraph on containers has a row for each of them in order, counted from zero. -/
inductive ContainerRows (containers : List ContainerSummary) : String → Prop
  | nothing (empty : containers = []) : ContainerRows containers "\nNo resource files.\n"
  | rows {rows : List String} (present : containers ≠ []) (each : rows.length = containers.length)
      (told : ∀ position summary row, containers[position]? = some summary →
        rows[position]? = some row → ContainerRow position summary row) :
    ContainerRows containers ("\nResource files:\n" ++ String.join rows)

/-- The settings of a report by name. -/
def namedSettings (settings : Settings) : List (String × String) :=
  [("title", settings.title), ("width", settings.width), ("height", settings.height),
    ("blorb", settings.blorb), ("terpnum", settings.terpnum)]

/-- A report as a text, with a paragraph each for the program, the settings and the containers. -/
def paragraphs (report : Report) (checksum : String) (settings : List String) (containers : String) :
    String :=
  String.join
    ["\nQuendor Z-Machine Interpreter (version: 0.1.0)\n\n",
      "Program: " ++ report.details.path.shown ++ "\n",
      "  format: " ++ report.details.packaging.label ++
        " | version: " ++ toString report.details.header.version.toNat ++
        " | size: " ++ toString report.details.size ++ " bytes\n",
      "  release: " ++ toString report.details.header.release.toNat ++
        " | serial: " ++ Text.latin1 report.details.header.serial ++
        " | checksum: 0x" ++ checksum ++ "\n",
      "  identity: " ++ report.title.text ++ "\n",
      "\nConfiguration:\n", String.join settings, containers]

/-- A report as a JSON document, with a member each for the program, the settings and the containers. -/
def members (report : Report) (path : String) : Json :=
  .object [("program", .object [("file", .text path),
      ("format", .text report.details.packaging.label), ("size", .number report.details.size),
      ("version", .number report.details.header.version.toNat),
      ("release", .number report.details.header.release.toNat),
      ("serial", .text (Text.latin1 report.details.header.serial)),
      ("checksum", .number report.details.header.checksum.toNat),
      ("identity", .text report.details.header.title.text)]),
    ("config", .object ((namedSettings report.settings).map fun (name, value) =>
      (name, .text value))),
    ("blorbs", .array (report.containers.map fun summary =>
      .object [("release", .number summary.release.toNat), ("resources", .number summary.resources),
        ("size", .number summary.size), ("verified", .truth summary.verified)]))]

/-- How a report is printed. There is a JSON document only if the path of the program is text. -/
inductive Shows (report : Report) : Bool → String → Prop
  | text {checksum containers : String} {settings : List String}
      (spelled : SpellsChecksum report.details.header.checksum checksum)
      (eachSetting : List.Forall₂ SettingRow (namedSettings report.settings) settings)
      (eachContainer : ContainerRows report.containers containers) :
    Shows report false (paragraphs report checksum settings containers)
  | document {path : String} (spelled : path = report.details.path) :
    Shows report true ((members report path).render ++ "\n")

theorem isCapitalDigit_iff {digit : Nat} {c : Char} (small : digit < 16) :
    IsCapitalDigit digit c ↔ digit.digitChar.toUpper = c := by
  have listed : ∀ digit < 16, "0123456789ABCDEF".toList[digit]? = some digit.digitChar.toUpper := by
    decide
  rw [IsCapitalDigit, listed digit small, Option.some.injEq]

theorem forall₂_isCapitalDigit_iff {digits : List Nat} {text : List Char}
    (small : ∀ digit ∈ digits, digit < 16) :
    List.Forall₂ IsCapitalDigit digits text ↔
      digits.map (fun digit => digit.digitChar.toUpper) = text := by
  induction digits generalizing text with
  | nil => rw [List.forall₂_nil_left_iff, List.map_nil, eq_comm]
  | cons digit rest ih =>
    obtain ⟨first, later⟩ := List.forall_mem_cons.mp small
    rw [List.forall₂_cons_left_iff, List.map_cons, eq_comm]
    simp only [isCapitalDigit_iff first, ih later, exists_and_left, exists_eq_left']

theorem spellsChecksum_iff {checksum : UInt16} {text : String} :
    SpellsChecksum checksum text ↔ Text.upperHex 4 checksum.toNat = text := by
  have bound : checksum.toNat < 16 ^ 4 := checksum.toNat_lt
  rw [SpellsChecksum, Text.upperHex, Text.lowerHex, Text.hexPadded_eq_hexPlaces (by decide) bound,
    ← String.toList_inj, String.toList_map, String.toList_ofList]
  generalize checksum.toNat = value at bound ⊢
  have places : Text.hexPlaces 4 value = [value / 4096, value / 256 % 16, value / 16 % 16,
      value % 16].map Nat.digitChar := by
    simp only [Text.hexPlaces, Nat.div_div_eq_div_mul, List.nil_append, List.cons_append,
      List.map_cons, List.map_nil]
    rw [Nat.mod_eq_of_lt (by omega : value / (16 * 16 * 16) < 16)]
  rw [forall₂_isCapitalDigit_iff, places, List.map_map]
  · rfl
  · simp only [List.mem_cons, List.not_mem_nil, or_false, forall_eq_or_imp, forall_eq]
    omega

theorem settingRow_iff {setting : String × String} {row : String} :
    SettingRow setting row ↔ Report.settingLine setting = row := by
  simp only [SettingRow, Text.atLeft_iff, exists_eq_left']
  have line : Report.settingLine setting =
      "  " ++ Text.alignLeft 8 setting.1 ++ " " ++ (if setting.2 = "" then "-" else setting.2) ++
        "\n" := rfl
  rw [line, eq_comm]

theorem containerRow_iff {position : Nat} {summary : ContainerSummary} {row : String} :
    ContainerRow position summary row ↔ Report.containerLine position summary = row := by
  simp only [ContainerRow, Text.atLeft_iff, Text.atRight_iff, exists_and_left, exists_eq_left']
  have line : Report.containerLine position summary =
      "  " ++ Text.alignRight 2 (toString position) ++ ". release " ++
        Text.alignLeft 5 (toString summary.release.toNat) ++ " " ++
        Text.alignRight 4 (toString summary.resources) ++ " resources " ++
        Text.alignRight 10 (toString summary.size) ++ " bytes" ++
        (if summary.verified = true then " (verified)" else "") ++ "\n" := by
    simp only [Report.containerLine, String.append_assoc]
    rfl
  rw [line, eq_comm]

theorem containerRows_iff {containers : List ContainerSummary} {text : String} :
    ContainerRows containers text ↔ Report.containersText containers = text := by
  rw [Report.containersText]
  constructor
  · intro shown
    cases shown with
    | nothing empty => rw [if_pos (List.isEmpty_iff.mpr empty)]
    | rows present each told =>
      rw [if_neg (mt List.isEmpty_iff.mp present)]
      refine congrArg (fun rows => "\nResource files:\n" ++ String.join rows) (List.ext_getElem ?_ ?_)
      · rw [List.length_map, List.length_zipIdx, each]
      · intro position inside within
        have listed : position < containers.length := each ▸ within
        have row := told position _ _ (List.getElem?_eq_getElem listed)
          (List.getElem?_eq_getElem within)
        rw [← containerRow_iff.mp row, List.getElem_map, List.getElem_zipIdx, Nat.zero_add]
  · rintro rfl
    split
    · rename_i empty
      exact .nothing (List.isEmpty_iff.mp empty)
    · rename_i filled
      refine .rows (mt List.isEmpty_iff.mpr filled) (by rw [List.length_map, List.length_zipIdx]) ?_
      intro position summary row listed printed
      rw [List.getElem?_map, List.getElem?_zipIdx, listed] at printed
      obtain rfl := Option.some.inj printed
      rw [Nat.zero_add]
      exact containerRow_iff.mpr rfl

theorem json_eq_ok_iff {report : Report} {document : Json} :
    report.json = .ok document ↔
      ∃ path : String, path = report.details.path ∧ members report path = document := by
  rw [Report.json, Report.detailsJson]
  simp only [Except.bind_eq_ok_iff, Path.json_eq_ok_iff]
  constructor
  · rintro ⟨_, ⟨_, ⟨path, spelled, rfl⟩, ⟨⟩⟩, ⟨⟩⟩
    exact ⟨path, spelled, rfl⟩
  · rintro ⟨path, spelled, rfl⟩
    exact ⟨_, ⟨_, ⟨path, spelled, rfl⟩, rfl⟩, rfl⟩

theorem json_eq_error_iff {report : Report} {cause : String} :
    report.json = .error cause ↔
      ¬ report.details.path.IsText ∧ cause = "path contains invalid UTF-8 characters" := by
  rw [Report.json, Report.detailsJson]
  simp only [Except.bind_eq_error_iff, Path.json_eq_error_iff]
  constructor
  · rintro ((damaged | ⟨_, _, ⟨⟩⟩) | ⟨_, _, ⟨⟩⟩)
    exact damaged
  · exact fun damaged => .inl (.inl damaged)

namespace Launch

theorem banner_append_text (report : Report) :
    banner ++ report.text = paragraphs report
      (Text.upperHex 4 report.details.header.checksum.toNat)
      (report.settings.entries.map Report.settingLine)
      (Report.containersText report.containers) := by
  have head : banner = "\nQuendor Z-Machine Interpreter (version: 0.1.0)\n\n" := by decide +kernel
  have size : " | size: " = " | " ++ "size: " := rfl
  have checksum : " | checksum: 0x" = " | " ++ "checksum: 0x" := rfl
  unfold Report.text paragraphs
  rw [head, size, checksum]
  simp only [-String.reduceAppend, String.join_cons, String.join_nil, String.append_assoc,
    String.append_empty]
  rfl

theorem output_eq_ok_iff {json : Bool} {report : Report} {printed : String} :
    output json report = .ok printed ↔ Shows report json printed := by
  cases json with
  | false =>
    have settings_iff (rows : List String) :
        List.Forall₂ SettingRow (namedSettings report.settings) rows ↔
          report.settings.entries.map Report.settingLine = rows := by
      have named : namedSettings report.settings = report.settings.entries := rfl
      simp only [named, ← forall₂_eq_map_iff, ← settingRow_iff]
    rw [output, if_neg Bool.false_ne_true, banner_append_text, Except.ok.injEq]
    constructor
    · rintro rfl
      exact .text (spellsChecksum_iff.mpr rfl) ((settings_iff _).mpr rfl) (containerRows_iff.mpr rfl)
    · intro
      | .text spelled eachSetting eachContainer =>
        rw [spellsChecksum_iff.mp spelled, (settings_iff _).mp eachSetting,
          containerRows_iff.mp eachContainer]
  | true =>
    rw [output, if_pos rfl, Except.map_eq_ok_iff]
    simp only [Except.mapError_eq_ok_iff, json_eq_ok_iff]
    constructor
    · rintro ⟨_, ⟨path, spelled, rfl⟩, rfl⟩
      exact .document spelled
    · rintro (_ | spelled)
      exact ⟨_, ⟨_, spelled, rfl⟩, rfl⟩

/-- Why a report has no JSON document. -/
def unwritten : Failure :=
  ⟨"serializing startup bundle to JSON", some "path contains invalid UTF-8 characters"⟩

theorem output_eq_error_iff {json : Bool} {report : Report} {failure : Failure} :
    output json report = .error failure ↔
      json = true ∧ ¬ report.details.path.IsText ∧ failure = unwritten := by
  cases json with
  | false =>
    rw [output, if_neg Bool.false_ne_true]
    simp only [reduceCtorEq, Bool.false_eq_true, false_and]
  | true =>
    rw [output, if_pos rfl, Except.map_eq_error_iff, Except.mapError_eq_error_iff, eq_self, true_and]
    simp only [json_eq_error_iff, and_assoc, exists_and_left, exists_eq_left]
    rw [eq_comm (a := failure)]
    rfl

end Launch
end CommandLine
end StoryBundle
