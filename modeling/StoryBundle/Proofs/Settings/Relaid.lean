import Mathlib.Data.List.Forall2
import StoryBundle.Proofs.Settings.File

/-!
# Indentation and line ends

What indents a line and a carriage return at its end make no difference to a settings file. Each
reader of a line gives the same for lines that differ only in these (`Relaid.isBreak_eq`,
`Relaid.labelled?`), and so do the searches over whole sections. So a text and the same text laid out
anew settle every title alike, with the section at the same place (`resolve_relaid`).
-/

namespace StoryBundle.Text

/-! ## Laying a text out anew -/

/-- A carriage return in front of each line feed. -/
def withReturns (text : List Char) : List Char :=
  text.flatMap fun c => if c = '\n' then ['\r', '\n'] else [c]

/-- Something in front of each line, which depends on the place of the line. -/
def indented (indents : Nat → List Char) (text : List Char) : List Char :=
  joinLines ((lines text).mapIdx fun place line => indents place ++ line)

/-- The same text, or the text with a carriage return behind it. -/
def Returned (text other : List Char) : Prop := other = text ∨ other = text ++ ['\r']

theorem Returned.cons {text other : List Char} (returned : Returned text other) (c : Char) :
    Returned (c :: text) (c :: other) := by
  rcases returned with rfl | rfl
  · exact .inl rfl
  · exact .inr rfl

theorem forall₂_lines_withReturns (text : List Char) :
    List.Forall₂ Returned (lines text) (lines (withReturns text)) := by
  induction text with
  | nil => exact .cons (.inl rfl) .nil
  | cons c rest ih =>
    by_cases feed : c = '\n'
    · subst feed
      have own : withReturns ('\n' :: rest) = ['\r'] ++ '\n' :: withReturns rest := rfl
      rw [own, ← List.nil_append ('\n' :: rest), lines_append_feed, lines_append_feed]
      exact .cons (.inr rfl) ih
    · have own : withReturns (c :: rest) = c :: withReturns rest := by
        rw [withReturns, List.flatMap_cons, if_neg feed]
        rfl
      rw [own, lines_cons feed, lines_cons feed]
      -- The character joins the first line on both sides.
      generalize lines rest = own, lines (withReturns rest) = laid at ih
      cases ih with
      | nil => exact .nil
      | cons returned others => exact .cons (returned.cons c) others

theorem lines_indented {indents : Nat → List Char} (plain : ∀ place, '\n' ∉ indents place)
    (text : List Char) :
    lines (indented indents text) = (lines text).mapIdx fun place line => indents place ++ line := by
  refine lines_joinLines ?_ ?_
  · rw [Ne, List.mapIdx_eq_nil_iff]
    exact pieces_ne_nil _ text
  · intro line member
    obtain ⟨place, inside, rfl⟩ := List.mem_mapIdx.mp member
    rw [List.mem_append, not_or]
    exact ⟨plain place, feed_not_mem_of_mem_lines (List.getElem_mem inside)⟩

/-! ## A carriage return at the end -/

theorem Returned.trim_eq {text other : List Char} (returned : Returned text other) :
    trim other = trim text := by
  rcases returned with rfl | rfl
  · rfl
  · exact trim_append_blank text (by decide)

theorem Returned.words_eq {text other : List Char} (returned : Returned text other) :
    words other = words text := by
  rcases returned with rfl | rfl
  · rfl
  · rw [words_append_blank text [] (by decide)]
    exact List.append_nil _

end StoryBundle.Text

namespace StoryBundle.Section

/-! ## Lines -/

/-- The same line, apart from what indents it and from a carriage return at its end. -/
def Relaid (line other : List Char) : Prop :=
  '\r' ∉ line ∧
    Text.Returned (line.dropWhile Text.isIndent) (other.dropWhile Text.isIndent)

/-- A carriage return indents nothing. -/
theorem dropWhile_append_return (text : List Char) :
    (text ++ ['\r']).dropWhile Text.isIndent = text.dropWhile Text.isIndent ++ ['\r'] := by
  rw [List.dropWhile_append]
  split
  · rename_i empty
    rw [List.isEmpty_iff.mp empty]
    rfl
  · rfl

/-- A line with an indentation and with a carriage return, or without one. -/
theorem Relaid.of_returned {line other indent : List Char} (plain : '\r' ∉ line)
    (returned : Text.Returned line other) (blank : ∀ c ∈ indent, Text.isIndent c = true) :
    Relaid line (indent ++ other) := by
  refine ⟨plain, ?_⟩
  rw [List.dropWhile_append_of_pos blank]
  rcases returned with rfl | rfl
  · exact .inl rfl
  · exact .inr (dropWhile_append_return line)

theorem Relaid.not_mem_dropWhile {line other : List Char} (relaid : Relaid line other) :
    '\r' ∉ line.dropWhile Text.isIndent :=
  fun inside => relaid.1 ((List.dropWhile_sublist _).mem inside)

theorem Relaid.isBreak_eq {line other : List Char} (relaid : Relaid line other) :
    isBreak other = isBreak line := by
  have plain := relaid.not_mem_dropWhile
  unfold isBreak
  rcases relaid.2 with same | returned
  · rw [same]
  · rw [returned]
    generalize line.dropWhile Text.isIndent = body at plain
    match body with
    | [] => rfl
    | [c] => by_cases sign : c = '%' <;> simp [sign]
    | c :: d :: rest =>
      by_cases first : c = '%'
      · by_cases second : d = '%'
        · subst first second
          have after : '\r' ∉ rest.dropWhile Text.isIndent := fun inside => plain
            (List.mem_cons_of_mem _ (List.mem_cons_of_mem _ ((List.dropWhile_sublist _).mem inside)))
          simp only [List.cons_append, dropWhile_append_return]
          -- Both tests ask whether nothing follows, since the line itself has no carriage return.
          cases behind : rest.dropWhile Text.isIndent with
          | nil => rfl
          | cons e more =>
            rw [behind, List.mem_cons, not_or] at after
            have other : (e == '\r') = false := by simpa using Ne.symm after.1
            simp [other]
        · simp [second]
      · simp [first]

theorem Relaid.starts_iff {line other : List Char} (relaid : Relaid line other) (key : List Char) :
    key ++ [':'] <+: other.dropWhile Text.isIndent ↔
      key ++ [':'] <+: line.dropWhile Text.isIndent := by
  rcases relaid.2 with same | returned
  · rw [same]
  · rw [returned, List.prefix_concat_iff]
    constructor
    · rintro (spelled | starts)
      · -- A label ends in a colon and not in a carriage return.
        simpa using congrArg List.getLast? spelled
      · exact starts
    · exact .inr

theorem Relaid.recognised_iff {line other : List Char} (relaid : Relaid line other) :
    Recognised line ↔ Recognised other := by
  unfold Recognised
  rw [← isBreak_iff, ← isBreak_iff, relaid.isBreak_eq]
  simp only [relaid.starts_iff]

/-- What follows a key is the same, or has the carriage return behind it. -/
theorem Relaid.labelled? {line other : List Char} (relaid : Relaid line other) (key : List Char) :
    Option.Rel Text.Returned (labelled? key line) (labelled? key other) := by
  have starts := relaid.starts_iff key
  rw [← List.isPrefixOf_iff_prefix, ← List.isPrefixOf_iff_prefix, ← Bool.eq_iff_iff] at starts
  unfold Section.labelled?
  simp only [starts]
  split
  · rename_i labelled
    have covered := (List.isPrefixOf_iff_prefix.mp labelled).length_le
    refine .some ?_
    rcases relaid.2 with same | returned
    · exact .inl (by rw [same])
    · exact .inr (by rw [returned, List.drop_append_of_le_length covered])
  · exact .none

/-! ## Runs of lines -/

variable {lines others : List (List Char)}

theorem forall₂_splitOnP_isBreak (relaid : List.Forall₂ Relaid lines others) :
    List.Forall₂ (List.Forall₂ Relaid) (lines.splitOnP isBreak) (others.splitOnP isBreak) := by
  induction relaid with
  | nil => exact .cons .nil .nil
  | @cons line other lines others related _ ih =>
    rw [List.splitOnP_cons_eq_if_modifyHead, List.splitOnP_cons_eq_if_modifyHead, related.isBreak_eq]
    split
    · exact .cons .nil ih
    · -- The line joins the first run on both sides.
      generalize lines.splitOnP isBreak = runs, others.splitOnP isBreak = laid at ih
      cases ih with
      | nil => exact .nil
      | cons first rest => exact .cons (.cons related first) rest

theorem forall₂_recognisedLines {text other : List Char}
    (relaid : List.Forall₂ Relaid (Text.lines text) (Text.lines other)) :
    List.Forall₂ Relaid (recognisedLines text) (recognisedLines other) := by
  refine List.rel_filter (fun line laid related => ?_) relaid
  change decide (Recognised line) = true ↔ decide (Recognised laid) = true
  rw [decide_eq_true_iff, decide_eq_true_iff]
  exact related.recognised_iff

theorem rel_findSome?_labelled? (relaid : List.Forall₂ Relaid lines others) (key : List Char) :
    Option.Rel Text.Returned (lines.findSome? (labelled? key))
      (others.findSome? (labelled? key)) := by
  induction relaid with
  | nil => exact .none
  | @cons line other lines others related _ ih =>
    have labelled := related.labelled? key
    rw [List.findSome?_cons, List.findSome?_cons]
    generalize labelled? key line = captured, labelled? key other = laid at labelled
    cases labelled with
    | some returned => exact .some returned
    | none => exact ih

theorem valueIn_eq_of_relaid (relaid : List.Forall₂ Relaid lines others) (setting : Setting) :
    valueIn others setting = valueIn lines setting := by
  have found := rel_findSome?_labelled? relaid setting.key.toList
  unfold valueIn
  generalize lines.findSome? (labelled? setting.key.toList) = captured,
    others.findSome? (labelled? setting.key.toList) = laid at found
  cases found with
  | some returned => exact returned.trim_eq
  | none => rfl

theorem listsIn_eq_of_relaid (relaid : List.Forall₂ Relaid lines others) (title : TitleId) :
    listsIn others title = listsIn lines title := by
  have found := rel_findSome?_labelled? relaid titlesKey
  unfold listsIn
  generalize lines.findSome? (labelled? titlesKey) = captured,
    others.findSome? (labelled? titlesKey) = laid at found
  cases found with
  | some returned =>
    dsimp only
    rw [returned.words_eq]
  | none => rfl

end StoryBundle.Section

namespace StoryBundle.SettingsFile

open Section

/-! ## Files -/

variable {parts others : List (List (List Char))}

theorem rel_find?_listsIn (relaid : List.Forall₂ (List.Forall₂ Relaid) parts others)
    (title : TitleId) :
    Option.Rel (List.Forall₂ Relaid) (parts.find? (listsIn · title))
      (others.find? (listsIn · title)) := by
  induction relaid with
  | nil => exact .none
  | cons related _ ih =>
    rw [List.find?_cons, List.find?_cons, listsIn_eq_of_relaid related]
    split
    · exact .some related
    · exact ih

theorem findIdx?_listsIn_eq (relaid : List.Forall₂ (List.Forall₂ Relaid) parts others)
    (title : TitleId) :
    others.findIdx? (listsIn · title) = parts.findIdx? (listsIn · title) := by
  induction relaid with
  | nil => rfl
  | cons related _ ih =>
    rw [List.findIdx?_cons, List.findIdx?_cons, listsIn_eq_of_relaid related, ih]

theorem valueAmong_eq_of_relaid (relaid : List.Forall₂ (List.Forall₂ Relaid) parts others)
    (title : TitleId) (setting : Setting) :
    valueAmong others title setting = valueAmong parts title setting := by
  cases relaid with
  | nil => rfl
  | @cons defaults laidDefaults parts others related rest =>
    have found := rel_find?_listsIn rest title
    have sameDefaults := valueIn_eq_of_relaid related setting
    unfold valueAmong
    dsimp only
    generalize parts.find? (listsIn · title) = own, others.find? (listsIn · title) = laid at found
    cases found with
    | some chosen =>
      dsimp only
      rw [valueIn_eq_of_relaid chosen, sameDefaults]
    | none => exact sameDefaults

/-- The place of the section for a title among the sections for titles. -/
def place? (file : SettingsFile) (title : TitleId) : Option Nat :=
  file.titleSections.findIdx? fun content => lists content.toList title

theorem isSome_sectionFor? (file : SettingsFile) (title : TitleId) :
    (file.sectionFor? title).isSome = (file.place? title).isSome := by
  rw [sectionFor?, place?, List.isSome_find?, List.findIdx?_isSome]

theorem place?_parse (text : List Char) (title : TitleId) :
    (parse (String.ofList text)).place? title =
      (((recognisedLines text).splitOnP isBreak).drop 1).findIdx? (listsIn · title) := by
  rw [← map_split, parse, String.toList_ofList]
  cases split text with
  | nil => rfl
  | cons defaults parts =>
    have listed : (fun content : String => lists content.toList title) ∘ String.ofList =
        (listsIn · title) ∘ recognisedLines := by
      funext content
      rw [Function.comp_apply, Function.comp_apply, String.toList_ofList, lists_eq_listsIn]
    rw [List.map_cons, List.drop_one, List.tail_cons, place?, List.findIdx?_map, List.findIdx?_map, listed]

/-- A file is resolved by its settings for the title, and the note says whether it has a section. -/
theorem resolve_congr {ε : Type} {file other : SettingsFile} {title : TitleId}
    (settings : file.settingsFor title = other.settingsFor title)
    (place : file.place? title = other.place? title) :
    (file.resolve title : Logged ε Settings) = other.resolve title := by
  have found : (file.sectionFor? title).isSome = (other.sectionFor? title).isSome := by
    rw [isSome_sectionFor?, isSome_sectionFor?, place]
  have sameNote : file.resolveNote title = other.resolveNote title := by
    unfold resolveNote
    cases own : file.sectionFor? title <;> cases theirs : other.sectionFor? title <;>
      simp [own, theirs] at found ⊢
  rw [resolve, resolve, settings, sameNote]

end StoryBundle.SettingsFile

namespace StoryBundle

/-- A text with carriage returns at the ends of its lines and with its lines indented. -/
def Text.relaid (indents : Nat → List Char) (text : String) : String :=
  String.ofList (indented indents (withReturns text.toList))

theorem Section.forall₂_relaid {text : String} (plain : '\r' ∉ text.toList)
    {indents : Nat → List Char} (blank : ∀ place, ∀ c ∈ indents place, Text.isIndent c = true) :
    List.Forall₂ Relaid (Text.lines text.toList) (Text.lines (Text.relaid indents text).toList) := by
  have whole : ∀ place, '\n' ∉ indents place := fun place inside =>
    absurd (blank place _ inside) (by decide)
  have returned := Text.forall₂_lines_withReturns text.toList
  rw [Text.relaid, String.toList_ofList, Text.lines_indented whole]
  rw [List.forall₂_iff_get] at returned ⊢
  obtain ⟨sameLength, each⟩ := returned
  refine ⟨by rw [sameLength, List.length_mapIdx], fun place own laid => ?_⟩
  rw [List.length_mapIdx] at laid
  have line := each place own laid
  simp only [List.get_eq_getElem, List.getElem_mapIdx] at line ⊢
  refine .of_returned (fun inside => plain ?_) line (blank place)
  exact Text.mem_of_mem_lines (List.getElem_mem own) inside

/-- A text that is laid out anew settles every title as before, and the section for the title stands
at the same place. -/
theorem SettingsFile.resolve_relaid {ε : Type} {text : String} (plain : '\r' ∉ text.toList)
    {indents : Nat → List Char} (blank : ∀ place, ∀ c ∈ indents place, Text.isIndent c = true)
    (title : TitleId) :
    ((parse (Text.relaid indents text)).resolve title : Logged ε Settings) =
        (parse text).resolve title ∧
      (parse (Text.relaid indents text)).place? title = (parse text).place? title := by
  have lines := Section.forall₂_recognisedLines (Section.forall₂_relaid plain blank)
  have sections := Section.forall₂_splitOnP_isBreak lines
  have place : (parse (Text.relaid indents text)).place? title = (parse text).place? title := by
    rw [← String.ofList_toList (s := Text.relaid indents text),
      ← String.ofList_toList (s := text), place?_parse, place?_parse, String.ofList_toList]
    exact findIdx?_listsIn_eq (List.forall₂_drop 1 sections) title
  refine ⟨resolve_congr (Settings.ext_get fun setting => ?_) place, place⟩
  rw [← String.ofList_toList (s := Text.relaid indents text), ← String.ofList_toList (s := text),
    get_settingsFor, get_settingsFor, String.ofList_toList]
  exact congrArg String.ofList (valueAmong_eq_of_relaid sections title setting)

/-- A fourth line that is nearly a break, and a last line without an end. -/
def SettingsFile.sampleText : String := "width: 8\n%%\nid: 3.4\n%% %\n%%\nid: 1.2\ntitle:"

/-- Each line is indented by one space more than the line before it. -/
def SettingsFile.sampleIndents (place : Nat) : List Char := List.replicate place ' '

theorem SettingsFile.resolve_relaid_sample :
    '\r' ∉ sampleText.toList ∧
      (∀ place, ∀ c ∈ sampleIndents place, Text.isIndent c = true) ∧
      Text.relaid sampleIndents sampleText =
        "width: 8\r\n %%\r\n  id: 3.4\r\n   %% %\r\n    %%\r\n     id: 1.2\r\n      title:" ∧
      ((parse (Text.relaid sampleIndents sampleText)).resolve ⟨"1.2"⟩ :
        Logged BundleError Settings).outcome = .ok { Settings.none with width := "8" } ∧
      (parse (Text.relaid sampleIndents sampleText)).place? ⟨"1.2"⟩ = some 1 := by
  have plain : '\r' ∉ sampleText.toList := by decide +kernel
  have blank : ∀ place, ∀ c ∈ sampleIndents place, Text.isIndent c = true := by
    intro place c inside
    rw [(List.mem_replicate.mp inside).2]
    rfl
  obtain ⟨resolved, place⟩ := resolve_relaid (ε := BundleError) plain blank ⟨"1.2"⟩
  refine ⟨plain, blank, by decide +kernel, ?_, ?_⟩
  · rw [resolved]
    decide +kernel
  · rw [place]
    decide +kernel

end StoryBundle
