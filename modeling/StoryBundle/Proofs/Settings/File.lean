import StoryBundle.FileSystem.Snapshot
import StoryBundle.Proofs.Bundle.Loading
import StoryBundle.Proofs.Settings.Section
import StoryBundle.Proofs.Text.Utf8

/-!
# What a settings file says of a title

A settings file is used through its recognised lines: the settings for a title can be read from the
runs of these between the breaks (`get_settingsFor`). Since damage ends with its line, two files
whose lines, each read for itself, have the same recognised ones among them settle every title alike
(`load_resolve_eq`).
-/

namespace StoryBundle.SettingsFile

open Section

/-- The value that sections with the given lines give a setting for a title. -/
def valueAmong (sections : List (List (List Char))) (title : TitleId) (setting : Setting) :
    List Char :=
  match sections with
  | [] => []
  | defaults :: parts =>
    match parts.find? (listsIn · title) with
    | some part =>
      if valueIn part setting = [] then valueIn defaults setting else valueIn part setting
    | none => valueIn defaults setting

theorem get_ofSection (content : List Char) (setting : Setting) :
    (Settings.ofSection (String.ofList content)).get setting =
      String.ofList (valueIn (recognisedLines content) setting) := by
  rw [Settings.ofSection, Settings.get_ofValues, String.toList_ofList, value_eq_valueIn]

theorem ofList_eq_empty_iff {text : List Char} : String.ofList text = "" ↔ text = [] := by
  rw [← String.ofList_nil, String.ofList_inj]

/-- The section for a title is the first whose recognised lines list it. -/
theorem find?_map_ofList (parts : List (List Char)) (title : TitleId) :
    (parts.map String.ofList).find? (fun content => lists content.toList title) =
      (parts.find? fun content => listsIn (recognisedLines content) title).map String.ofList := by
  have listed : (fun content : String => lists content.toList title) ∘ String.ofList =
      fun content => listsIn (recognisedLines content) title := by
    funext content
    rw [Function.comp_apply, String.toList_ofList, lists_eq_listsIn]
  rw [List.find?_map, listed]

theorem find?_map_recognisedLines (parts : List (List Char)) (title : TitleId) :
    (parts.map recognisedLines).find? (listsIn · title) =
      (parts.find? fun content => listsIn (recognisedLines content) title).map recognisedLines :=
  List.find?_map

/-- A file says of a title what the runs of its recognised lines say. -/
theorem get_settingsFor (text : List Char) (title : TitleId) (setting : Setting) :
    ((parse (String.ofList text)).settingsFor title).get setting =
      String.ofList (valueAmong ((recognisedLines text).splitOnP isBreak) title setting) := by
  rw [← map_split, parse, String.toList_ofList]
  cases cut : split text with
  | nil => exact absurd cut (split_ne_nil text)
  | cons defaults parts =>
    rw [List.map_cons, valueAmong, find?_map_recognisedLines]
    unfold settingsFor sectionFor?
    rw [find?_map_ofList]
    cases parts.find? fun content => listsIn (recognisedLines content) title with
    | none =>
      simp only [Option.map_none, Settings.filledFrom, Settings.none, Settings.get_ofValues,
        if_true]
      exact get_ofSection defaults setting
    | some part =>
      simp only [Option.map_some, Settings.filledFrom, Settings.get_ofValues,
        SettingsFile.defaults, get_ofSection, ofList_eq_empty_iff]
      split <;> rfl

/-! ## Bytes -/

/-- The recognised lines of a byte string of which each line is read for itself. -/
def recognisedIn (bytes : Bytes) : List (List Char) :=
  ((bytes.splitOn Text.Utf8.feedByte).map Text.Utf8.decode).filter Recognised

theorem recognisedLines_decode (bytes : Bytes) :
    recognisedLines (Text.Utf8.decode bytes) = recognisedIn bytes := by
  rw [recognisedLines, Text.Utf8.lines_decode, recognisedIn]

theorem recognisedIn_append_feed (front rest : Bytes) :
    recognisedIn (front ++ Text.Utf8.feedByte :: rest) = recognisedIn front ++ recognisedIn rest := by
  rw [recognisedIn, List.splitOn_append_cons_self, List.map_append, List.filter_append]
  rfl

/-- A line that is not recognised can be put in or left out. -/
theorem recognisedIn_insert {line : Bytes} (single : Text.Utf8.feedByte ∉ line)
    (unknown : ¬ Recognised (Text.Utf8.decode line)) (front rest : Bytes) :
    recognisedIn (front ++ Text.Utf8.feedByte :: (line ++ Text.Utf8.feedByte :: rest)) =
      recognisedIn (front ++ Text.Utf8.feedByte :: rest) := by
  have nothing : recognisedIn line = [] := by
    rw [recognisedIn, List.splitOn_eq_singleton single]
    simpa using unknown
  rw [recognisedIn_append_feed, recognisedIn_append_feed, recognisedIn_append_feed, nothing,
    List.nil_append]

theorem get_settingsFor_ofBytes (path : Path) (bytes : Bytes) (title : TitleId)
    (setting : Setting) :
    ((ofBytes path bytes).settingsFor title).get setting =
      String.ofList (valueAmong ((recognisedIn bytes).splitOnP isBreak) title setting) := by
  rw [← recognisedLines_decode, ← get_settingsFor]
  rfl

theorem outcome_load_resolve {files : FileSystem} {path : Path} {bytes : Bytes}
    (content : files.read path = .ok bytes) (title : TitleId) :
    (load files path >>= fun file => file.resolve title).outcome =
      .ok ((ofBytes path bytes).settingsFor title) := by
  have loaded := load_eq_ok_iff.mpr ⟨bytes, content, rfl⟩
  rw [Logged.outcome_bind, loaded, Except.ok_bind_eq, outcome_resolve]

/-- Lines that are not recognised cannot interfere, whatever their bytes. -/
theorem load_resolve_eq {files otherFiles : FileSystem} {path otherPath : Path}
    {bytes otherBytes : Bytes} (content : files.read path = .ok bytes)
    (otherContent : otherFiles.read otherPath = .ok otherBytes)
    (same : recognisedIn bytes = recognisedIn otherBytes) (title : TitleId) :
    ∃ settings,
      (load files path >>= fun file => file.resolve title).outcome = .ok settings ∧
      (load otherFiles otherPath >>= fun file => file.resolve title).outcome = .ok settings := by
  refine ⟨(ofBytes path bytes).settingsFor title, outcome_load_resolve content title, ?_⟩
  rw [outcome_load_resolve otherContent title]
  apply congrArg Except.ok
  apply Settings.ext_get
  intro setting
  rw [get_settingsFor_ofBytes, get_settingsFor_ofBytes, same]

def soundSample : Bytes := "width: 8\n%%\nid: 1.2\ntitle: A".toUTF8.toList

/-- The same settings among damaged lines, two of them right above a line that counts. -/
def damagedSample : Bytes :=
  0xE2 :: 0x82 :: "\nwidth: 8\n%%\nsubtitle: B\n".toUTF8.toList ++
    0xF0 :: "\nid: 1.2\ntitle: A\n".toUTF8.toList ++ [0xFF, 0xC3]

def sampleFiles : FileSystem :=
  Snapshot.fileSystem
    ⟨[("/s/sound", ⟨true, .ok soundSample⟩), ("/s/damaged", ⟨true, .ok damagedSample⟩)], []⟩

theorem load_resolve_eq_sample :
    recognisedIn soundSample = recognisedIn damagedSample ∧ ∃ settings,
      (load sampleFiles "/s/sound" >>= fun file => file.resolve ⟨"1.2"⟩).outcome =
        .ok settings ∧
      (load sampleFiles "/s/damaged" >>= fun file => file.resolve ⟨"1.2"⟩).outcome =
        .ok settings := by
  have sound : sampleFiles.read "/s/sound" = .ok soundSample := by decide +kernel
  have damaged : sampleFiles.read "/s/damaged" = .ok damagedSample := by decide +kernel
  have same : recognisedIn soundSample = recognisedIn damagedSample := by decide +kernel
  exact ⟨same, load_resolve_eq sound damaged same ⟨"1.2"⟩⟩

end StoryBundle.SettingsFile
