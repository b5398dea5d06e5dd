import Mathlib.Data.List.Find
import StoryBundle.Proofs.Settings.File
import StoryBundle.Settings.Written

/-!
# Reading what was written

A written settings file consists of lines that a reader recognises, and it breaks them where they
were written apart (`recognisedLines_file`). So the settings for a title are read back from it as
they were written, whatever a value imitates (`resolve_file`).
-/

namespace StoryBundle.Section

/-! ## Lines that start with a key -/

/-- A key is a word of small letters. -/
theorem lower_of_mem_keys {key : List Char} (known : key ∈ keys) :
    key ≠ [] ∧ ∀ c ∈ key, c.isLower = true := by
  have lower : ∀ key ∈ keys, key ≠ [] ∧ key.all Char.isLower = true := by decide +kernel
  obtain ⟨present, letters⟩ := lower key known
  exact ⟨present, List.all_eq_true.mp letters⟩

theorem not_mem_key {key : List Char} (known : key ∈ keys) {c : Char} (other : c.isLower = false) :
    c ∉ key := by
  intro inside
  have lower := (lower_of_mem_keys known).2 c inside
  rw [other] at lower
  cases lower

/-- A line that starts with a key is not indented. -/
theorem dropWhile_key_append {key : List Char} (known : key ∈ keys) (rest : List Char) :
    (key ++ rest).dropWhile Text.isIndent = key ++ rest := by
  cases key with
  | nil => exact absurd rfl (lower_of_mem_keys known).1
  | cons c tail =>
    refine List.dropWhile_cons_of_neg fun indents => ?_
    simp only [Text.isIndent, Bool.or_eq_true, beq_iff_eq] at indents
    rcases indents with rfl | rfl
    · exact not_mem_key known rfl List.mem_cons_self
    · exact not_mem_key known rfl List.mem_cons_self

/-- A line that starts with a key and a colon. -/
def Keyed (line : List Char) : Prop := ∃ key ∈ keys, ∃ rest, line = key ++ ':' :: rest

theorem Keyed.recognised {line : List Char} (keyed : Keyed line) : Recognised line := by
  obtain ⟨key, known, rest, rfl⟩ := keyed
  refine .inr ⟨key, known, rest, ?_⟩
  rw [dropWhile_key_append known, List.append_assoc, List.singleton_append]

theorem Keyed.isBreak_eq_false {line : List Char} (keyed : Keyed line) : isBreak line = false := by
  obtain ⟨key, known, rest, rfl⟩ := keyed
  rw [isBreak, dropWhile_key_append known]
  cases key with
  | nil => exact absurd rfl (lower_of_mem_keys known).1
  | cons c tail =>
    have letter : c ≠ '%' := by
      rintro rfl
      exact not_mem_key known rfl List.mem_cons_self
    simp [letter]

/-- What follows a key on a line that starts with one. -/
theorem labelled?_key_append {key other : List Char} (known : key ∈ keys) (otherKnown : other ∈ keys)
    (rest : List Char) :
    labelled? key (other ++ ':' :: rest) = if key = other then some rest else none := by
  rw [labelled?, dropWhile_key_append otherKnown]
  by_cases same : key = other
  · subst same
    simp
  · have differs : ¬ key ++ [':'] <+: other ++ ':' :: rest := by
      rintro ⟨more, spelled⟩
      rw [List.append_assoc, List.singleton_append] at spelled
      have cut := congrArg (List.splitOn ':') spelled
      rw [List.splitOn_append_cons_self_of_not_mem (not_mem_key known rfl),
        List.splitOn_append_cons_self_of_not_mem (not_mem_key otherKnown rfl)] at cut
      exact same (List.cons.inj cut).1
    simp [List.isPrefixOf_iff_prefix, differs, same]

end StoryBundle.Section

namespace StoryBundle.Written

open Section

/-! ## What is written well -/

/-- Each setting has one line, and each value survives being written on one: it holds no line feed
and no blanks at its ends. -/
structure Lines.WellFormed (lines : Lines) : Prop where
  order : lines.order.Perm Setting.all
  whole : ∀ setting, '\n' ∉ (lines.settings.get setting).toList
  trimmed : ∀ setting,
    Text.trim (lines.settings.get setting).toList = (lines.settings.get setting).toList

/-- The titles are words that have no blanks. -/
structure TitleSection.WellFormed (part : TitleSection) : Prop where
  lines : part.lines.WellFormed
  titles : ∀ word ∈ part.titles, word ≠ "" ∧ ∀ c ∈ word.toList, Text.isBlank c = false

/-- One of a section's titles contains the text by which a title is looked up. -/
def TitleSection.IsFor (part : TitleSection) (title : TitleId) : Prop :=
  ∃ word ∈ part.titles, title.text.toList <:+: word.toList

instance (part : TitleSection) (title : TitleId) : Decidable (part.IsFor title) :=
  inferInstanceAs (Decidable (∃ word ∈ part.titles, title.text.toList <:+: word.toList))

theorem Lines.WellFormed.mem_order {lines : Lines} (sound : lines.WellFormed) (setting : Setting) :
    setting ∈ lines.order := sound.order.mem_iff.mpr setting.mem_all

/-! ## What is written as lines -/

/-- The line of a setting without its line feed. -/
def entryRow (settings : Settings) (setting : Setting) : List Char :=
  setting.key.toList ++ ':' :: ' ' :: (settings.get setting).toList

/-- The line of titles without its line feed. -/
def titlesRow (titles : List String) : List Char :=
  titlesKey ++ ':' :: ' ' :: [' '].intercalate (titles.map String.toList)

def Lines.rows (lines : Lines) : List (List Char) := lines.order.map (entryRow lines.settings)

/-- A section's lines below its break. -/
def TitleSection.body (part : TitleSection) : List (List Char) :=
  titlesRow part.titles :: part.lines.rows

def rows (defaults : Lines) (parts : List TitleSection) : List (List Char) :=
  defaults.rows ++ parts.flatMap fun part => ['%', '%'] :: part.body

theorem Lines.text_eq (lines : Lines) : lines.text = lines.rows.flatMap (· ++ ['\n']) := by
  rw [Lines.text, Lines.rows, List.flatMap_map]
  apply congrArg (List.flatMap · lines.order)
  funext setting
  rw [line, entryRow, List.append_assoc]
  rfl

theorem TitleSection.text_eq (part : TitleSection) :
    part.text = (['%', '%'] :: part.body).flatMap (· ++ ['\n']) := by
  rw [TitleSection.text, part.lines.text_eq, TitleSection.body, titlesRow]
  simp

theorem toList_file (defaults : Lines) (parts : List TitleSection) :
    (file defaults parts).toList = (rows defaults parts).flatMap (· ++ ['\n']) := by
  have texts : TitleSection.text = fun part => (['%', '%'] :: part.body).flatMap (· ++ ['\n']) :=
    funext TitleSection.text_eq
  rw [file, String.toList_ofList, rows, List.flatMap_append, defaults.text_eq, List.flatMap_assoc,
    texts]

/-! ## Reading the lines -/

theorem Lines.keyed_of_mem_rows {lines : Lines} {row : List Char} (member : row ∈ lines.rows) :
    Keyed row := by
  obtain ⟨setting, _, rfl⟩ := List.mem_map.mp member
  exact ⟨setting.key.toList, key_mem_keys setting, _, rfl⟩

theorem TitleSection.keyed_of_mem_body {part : TitleSection} {row : List Char}
    (member : row ∈ part.body) : Keyed row := by
  rcases List.mem_cons.mp member with rfl | member
  · exact ⟨titlesKey, titlesKey_mem_keys, _, rfl⟩
  · exact Lines.keyed_of_mem_rows member

theorem mem_rows_iff {defaults : Lines} {parts : List TitleSection} {row : List Char} :
    row ∈ rows defaults parts ↔
      row ∈ defaults.rows ∨ ∃ part ∈ parts, row = ['%', '%'] ∨ row ∈ part.body := by
  simp only [rows, List.mem_append, List.mem_flatMap, List.mem_cons]

theorem recognised_of_mem_rows {defaults : Lines} {parts : List TitleSection} {row : List Char}
    (member : row ∈ rows defaults parts) : Recognised row := by
  rcases mem_rows_iff.mp member with own | ⟨part, _, rfl | inside⟩
  · exact (Lines.keyed_of_mem_rows own).recognised
  · exact recognised_of_isBreak rfl
  · exact (TitleSection.keyed_of_mem_body inside).recognised

/-- The breaks are where they were written, and nowhere else. -/
theorem splitOnP_rows (defaults : Lines) (parts : List TitleSection) :
    (rows defaults parts).splitOnP isBreak = defaults.rows :: parts.map TitleSection.body := by
  -- Each body is what stands in front of the next break.
  suffices split : ∀ front, (∀ row ∈ front, Keyed row) →
      (front ++ parts.flatMap fun part => ['%', '%'] :: part.body).splitOnP isBreak =
        front :: parts.map TitleSection.body from
    split defaults.rows fun _ => Lines.keyed_of_mem_rows
  induction parts with
  | nil =>
    intro front keyed
    rw [List.flatMap_nil, List.append_nil]
    exact List.splitOnP_eq_singleton fun row member => (keyed row member).isBreak_eq_false
  | cons part rest ih =>
    intro front keyed
    rw [List.flatMap_cons, List.cons_append, List.splitOnP_append_cons_of_forall_mem
      (fun row member => (keyed row member).isBreak_eq_false) _ rfl,
      ih part.body fun _ => TitleSection.keyed_of_mem_body, List.map_cons]

theorem feed_not_mem_key_append {key rest : List Char} (known : key ∈ keys) (whole : '\n' ∉ rest) :
    '\n' ∉ key ++ ':' :: ' ' :: rest := by
  have front := not_mem_key known (c := '\n') rfl
  simp [front, whole]

theorem Lines.WellFormed.feed_not_mem {lines : Lines} (sound : lines.WellFormed) :
    ∀ row ∈ lines.rows, '\n' ∉ row := by
  intro row member
  obtain ⟨setting, _, rfl⟩ := List.mem_map.mp member
  exact feed_not_mem_key_append (key_mem_keys setting) (sound.whole setting)

theorem TitleSection.WellFormed.feed_not_mem {part : TitleSection} (sound : part.WellFormed) :
    ∀ row ∈ part.body, '\n' ∉ row := by
  intro row member
  rcases List.mem_cons.mp member with rfl | member
  · refine feed_not_mem_key_append titlesKey_mem_keys
      (Text.not_mem_intercalate (by decide) fun word joined => ?_)
    obtain ⟨title, listed, rfl⟩ := List.mem_map.mp joined
    intro inside
    have solid := (sound.titles title listed).2 _ inside
    exact absurd solid (by decide)
  · exact sound.lines.feed_not_mem row member

/-- A written file is read as the lines that were written. -/
theorem recognisedLines_file {defaults : Lines} {parts : List TitleSection}
    (sound : defaults.WellFormed) (partsSound : ∀ part ∈ parts, part.WellFormed) :
    recognisedLines (file defaults parts).toList = rows defaults parts := by
  have whole : ∀ row ∈ rows defaults parts, '\n' ∉ row := by
    intro row member
    rcases mem_rows_iff.mp member with own | ⟨part, listed, rfl | inside⟩
    · exact sound.feed_not_mem row own
    · decide
    · exact (partsSound part listed).feed_not_mem row inside
  have known : (rows defaults parts).filter Recognised = rows defaults parts :=
    List.filter_eq_self.mpr fun row member => decide_eq_true (recognised_of_mem_rows member)
  rw [recognisedLines, toList_file, Text.lines_flatMap_feed whole, List.filter_append, known]
  exact List.append_nil _

/-! ## Reading the values -/

theorem findSome?_entryRow (settings : Settings) {order : List Setting} {setting : Setting}
    (listed : setting ∈ order) :
    (order.map (entryRow settings)).findSome? (labelled? setting.key.toList) =
      some (' ' :: (settings.get setting).toList) := by
  induction order with
  | nil => cases listed
  | cons other rest ih =>
    rw [List.map_cons, List.findSome?_cons, entryRow,
      labelled?_key_append (key_mem_keys setting) (key_mem_keys other)]
    by_cases same : setting = other
    · subst same
      rw [if_pos rfl]
    · have differs : setting.key.toList ≠ other.key.toList := by
        revert same
        cases setting <;> cases other <;> decide
      rw [if_neg differs]
      exact ih ((List.mem_cons.mp listed).resolve_left same)

theorem Lines.WellFormed.valueIn_rows {lines : Lines} (sound : lines.WellFormed)
    (setting : Setting) :
    valueIn lines.rows setting = (lines.settings.get setting).toList := by
  rw [valueIn, Lines.rows, findSome?_entryRow _ (sound.mem_order setting)]
  exact (Text.trim_cons_blank (by decide) _).trans (sound.trimmed setting)

/-- The line of titles gives no value. -/
theorem TitleSection.WellFormed.valueIn_body {part : TitleSection} (sound : part.WellFormed)
    (setting : Setting) :
    valueIn part.body setting = (part.lines.settings.get setting).toList := by
  have differs : setting.key.toList ≠ titlesKey := by cases setting <;> decide
  rw [← sound.lines.valueIn_rows, valueIn, TitleSection.body, List.findSome?_cons, titlesRow,
    labelled?_key_append (key_mem_keys setting) titlesKey_mem_keys, if_neg differs]
  rfl

theorem TitleSection.WellFormed.listsIn_body {part : TitleSection} (sound : part.WellFormed)
    (title : TitleId) : listsIn part.body title = decide (part.IsFor title) := by
  have proper : ∀ word ∈ part.titles.map String.toList,
      word ≠ [] ∧ ∀ c ∈ word, Text.isBlank c = false := by
    intro word joined
    obtain ⟨text, listed, rfl⟩ := List.mem_map.mp joined
    obtain ⟨present, solid⟩ := sound.titles text listed
    exact ⟨String.toList_eq_nil_iff.not.mpr present, solid⟩
  have read : Text.words (' ' :: [' '].intercalate (part.titles.map String.toList)) =
      part.titles.map String.toList := by
    rw [Text.words_cons_blank (by decide), Text.words_intercalate proper]
  rw [listsIn, TitleSection.body, List.findSome?_cons, titlesRow,
    labelled?_key_append titlesKey_mem_keys titlesKey_mem_keys, if_pos rfl]
  dsimp only
  rw [read, Bool.eq_iff_iff, List.any_map, List.any_eq_true, decide_eq_true_iff]
  exact exists_congr fun word => and_congr_right fun _ => Text.occursIn_eq_true_iff

/-- Each setting is read as the first section for the title makes it, and as the defaults make it
where that section leaves it empty or there is none. -/
theorem resolve_file {ε : Type} {defaults : Lines} {parts : List TitleSection}
    (sound : defaults.WellFormed) (partsSound : ∀ part ∈ parts, part.WellFormed)
    (title : TitleId) :
    ((SettingsFile.parse (file defaults parts)).resolve title : Logged ε Settings).outcome =
      .ok (.ofValues fun setting =>
        match parts.find? fun part => part.IsFor title with
        | some part =>
          if part.lines.settings.get setting = "" then defaults.settings.get setting
          else part.lines.settings.get setting
        | none => defaults.settings.get setting) := by
  have chosen : (parts.map TitleSection.body).find? (listsIn · title) =
      (parts.find? fun part => part.IsFor title).map TitleSection.body := by
    rw [List.find?_map]
    exact congrArg (Option.map _)
      (List.find?_congr fun part listed => (partsSound part listed).listsIn_body title)
  rw [SettingsFile.outcome_resolve]
  refine congrArg Except.ok (Settings.ext_get fun setting => ?_)
  rw [Settings.get_ofValues, ← String.ofList_toList (s := file defaults parts),
    SettingsFile.get_settingsFor, recognisedLines_file sound partsSound, splitOnP_rows,
    SettingsFile.valueAmong, chosen]
  cases found : parts.find? fun part => part.IsFor title with
  | none =>
    rw [Option.map_none]
    dsimp only
    rw [sound.valueIn_rows, String.ofList_toList]
  | some part =>
    have own := partsSound part (List.mem_of_find?_eq_some found)
    rw [Option.map_some]
    dsimp only
    rw [own.valueIn_body, sound.valueIn_rows]
    by_cases unset : part.lines.settings.get setting = ""
    · rw [if_pos (String.toList_eq_nil_iff.mpr unset), if_pos unset, String.ofList_toList]
    · rw [if_neg (String.toList_eq_nil_iff.not.mpr unset), if_neg unset, String.ofList_toList]

/-- Defaults whose values look like breaks and keys. -/
def sampleDefaults : Lines :=
  ⟨⟨"id: 41.890504", "%%", "480", "title:\r%%", ""⟩, [.blorb, .title, .terpnum, .width, .height]⟩

/-- The second section is the first for its titles, and the third comes too late for one of them. -/
def sampleParts : List TitleSection :=
  [⟨[], ⟨⟨"None", "", "", "", ""⟩, [.title, .width, .height, .blorb, .terpnum]⟩⟩,
    ⟨["41.890504", "%%"], ⟨⟨"Arthur: the quest", "", "width: 9", "", "6"⟩,
      [.terpnum, .blorb, .height, .width, .title]⟩⟩,
    ⟨["id:1.890504"], ⟨⟨"Late", "1", "1", "1", "1"⟩, [.title, .width, .height, .blorb, .terpnum]⟩⟩]

theorem wellFormed_sampleDefaults : sampleDefaults.WellFormed where
  order := by decide
  whole := by intro setting; cases setting <;> decide +kernel
  trimmed := by intro setting; cases setting <;> decide +kernel

theorem wellFormed_sampleParts : ∀ part ∈ sampleParts, part.WellFormed := by
  have solid : ∀ part ∈ sampleParts, ∀ word ∈ part.titles,
      word ≠ "" ∧ word.toList.all (!Text.isBlank ·) = true := by decide +kernel
  have titles : ∀ part ∈ sampleParts, ∀ word ∈ part.titles,
      word ≠ "" ∧ ∀ c ∈ word.toList, Text.isBlank c = false := by
    intro part known word listed
    obtain ⟨present, plain⟩ := solid part known word listed
    exact ⟨present, fun c inside => by simpa using List.all_eq_true.mp plain c inside⟩
  intro part known
  refine ⟨⟨?_, ?_, ?_⟩, titles part known⟩
  · revert part
    decide +kernel
  · intro setting
    revert part
    cases setting <;> decide +kernel
  · intro setting
    revert part
    cases setting <;> decide +kernel

/-- A text inside the first title of the second section is found there. -/
theorem resolve_file_sample :
    ((SettingsFile.parse (file sampleDefaults sampleParts)).resolve ⟨"1.890504"⟩ :
        Logged BundleError Settings).outcome =
      .ok ⟨"Arthur: the quest", "%%", "width: 9", "title:\r%%", "6"⟩ := by
  refine (resolve_file wellFormed_sampleDefaults wellFormed_sampleParts ⟨"1.890504"⟩).trans
    (congrArg Except.ok ?_)
  decide +kernel

end StoryBundle.Written
