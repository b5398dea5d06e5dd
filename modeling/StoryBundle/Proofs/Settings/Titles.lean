import Mathlib.Data.List.Basic
import StoryBundle.Proofs.Settings.Extended
import StoryBundle.Proofs.Settings.Pattern
import StoryBundle.Proofs.Story.Title

/-!
# Which titles a section is for

A section is for a title if the title's text stands somewhere inside a listed word. When the listed
words are texts of titles themselves, the dots pin this down: a release has only digits and a serial
of a listed title has no dot, so the two dots meet (`infix_dotted_iff`). Then the serials are the
same, and all that can differ is that the listed release has more digits in front (`lists_iff`). A
title whose serial has a blank is listed nowhere, since words have none (`lists_of_blank`).
-/

namespace StoryBundle

/-! ## Texts of titles -/

theorem Text.dot_not_mem_latin1 {bytes : Bytes} (plain : 0x2E ∉ bytes) :
    '.' ∉ bytes.map latin1Char := by
  intro inside
  obtain ⟨byte, member, shown⟩ := List.mem_map.mp inside
  have dot : byte = 0x2E := latin1Char_injective shown
  exact plain (dot ▸ member)

/-- The blanks that a byte can show. -/
theorem Text.isBlank_latin1Char_iff {byte : UInt8} :
    isBlank (latin1Char byte) = true ↔
      (0x09 ≤ byte ∧ byte ≤ 0x0D) ∨ byte = 0x20 ∨ byte = 0x85 ∨ byte = 0xA0 := by
  have bound := byte.toNat_lt
  simp only [isBlank, toNat_latin1Char, Bool.or_eq_true, Bool.and_eq_true, decide_eq_true_eq,
    beq_iff_eq, UInt8.le_iff_toNat_le, ← UInt8.toNat_inj]
  change _ ↔ (9 ≤ byte.toNat ∧ byte.toNat ≤ 13) ∨ byte.toNat = 32 ∨ byte.toNat = 133 ∨
    byte.toNat = 160
  omega

/-- A text with a dot in it stands inside one that has no other dot only if the dots meet. -/
theorem Text.infix_dotted_iff {front back outerFront outerBack : List Char}
    (frontPlain : '.' ∉ outerFront) (backPlain : '.' ∉ outerBack) :
    front ++ '.' :: back <:+: outerFront ++ '.' :: outerBack ↔
      front <:+ outerFront ∧ back <+: outerBack := by
  constructor
  · rintro ⟨before, after, spelled⟩
    have regrouped : outerFront ++ '.' :: outerBack = (before ++ front) ++ '.' :: (back ++ after) := by
      rw [← spelled]
      simp
    obtain ⟨fronts, _, backs⟩ :=
      (List.append_cons_inj_of_notMem frontPlain backPlain).mp regrouped
    exact ⟨⟨before, fronts.symm⟩, ⟨after, backs.symm⟩⟩
  · rintro ⟨⟨before, rfl⟩, after, rfl⟩
    exact ⟨before, after, by simp⟩

namespace Section

/-- A title as a section lists it. That its serial has no blanks need not be asked of a word. -/
structure ListedTitle where
  release : UInt16
  serial : Bytes
  width : serial.length = 6
  plain : 0x2E ∉ serial

namespace ListedTitle

def id (entry : ListedTitle) : TitleId := .of entry.release entry.serial

/-- A title's text stands inside a listed one if the serials are the same and the release is what is
left of the listed release without some of its leading digits. -/
theorem infix_text_iff {entry : ListedTitle} {release : UInt16} {serial : Bytes}
    (width : serial.length = 6) :
    (TitleId.of release serial).text.toList <:+: entry.id.text.toList ↔
      entry.serial = serial ∧
        (toString release.toNat).toList <:+ (toString entry.release.toNat).toList := by
  rw [id, TitleId.toList_text, TitleId.toList_text, Text.infix_dotted_iff
    (Text.dot_not_mem_toString _) (Text.dot_not_mem_latin1 entry.plain), and_comm]
  refine and_congr_left fun _ => ⟨fun starts => ?_, fun same => same ▸ List.prefix_rfl⟩
  have spelled := starts.eq_of_length (by rw [List.length_map, List.length_map, width, entry.width])
  exact (Text.map_latin1Char_injective spelled).symm

end ListedTitle

theorem lists_eq_true_iff {content : List Char} {title : TitleId} :
    lists content title = true ↔ ∃ line word, capture? titlesKey content = some line ∧
      word ∈ Text.words line ∧ title.text.toList <:+: word := by
  rw [lists]
  cases capture? titlesKey content <;> simp [Text.occursIn_eq_true_iff]

/-- The titles that a section is for, when it lists texts of titles. -/
theorem lists_iff {content line : List Char} {listed : List ListedTitle} {release : UInt16}
    {serial : Bytes} (captured : capture? titlesKey content = some line)
    (spelled : Text.words line = listed.map fun entry => entry.id.text.toList)
    (width : serial.length = 6) :
    lists content (.of release serial) = true ↔ ∃ entry ∈ listed, entry.serial = serial ∧
      (toString release.toNat).toList <:+ (toString entry.release.toNat).toList := by
  rw [lists_eq_true_iff]
  constructor
  · rintro ⟨_, word, found, member, inside⟩
    rw [captured, Option.some.injEq] at found
    subst found
    rw [spelled] at member
    obtain ⟨entry, known, rfl⟩ := List.mem_map.mp member
    exact ⟨entry, known, (ListedTitle.infix_text_iff width).mp inside⟩
  · rintro ⟨entry, known, same⟩
    have member : entry.id.text.toList ∈ Text.words line := spelled ▸ List.mem_map_of_mem known
    exact ⟨line, _, captured, member, (ListedTitle.infix_text_iff width).mpr same⟩

theorem lists_listed {content line : List Char} {listed : List ListedTitle}
    (captured : capture? titlesKey content = some line)
    (spelled : Text.words line = listed.map fun entry => entry.id.text.toList) :
    ∀ entry ∈ listed, lists content entry.id = true := by
  intro entry known
  exact (lists_iff captured spelled entry.width).mpr ⟨entry, known, rfl, List.suffix_rfl⟩

/-- No word has a blank, so a title with one in its serial is not listed. -/
theorem lists_of_blank {release : UInt16} {serial : Bytes} {byte : UInt8} (inside : byte ∈ serial)
    (blank : Text.isBlank (Text.latin1Char byte) = true) (content : List Char) :
    lists content (.of release serial) = false := by
  apply Bool.eq_false_iff.mpr
  intro found
  obtain ⟨line, word, _, member, occurs⟩ := lists_eq_true_iff.mp found
  have shown : Text.latin1Char byte ∈ (TitleId.of release serial).text.toList := by
    rw [TitleId.toList_text]
    exact List.mem_append_right _ (List.mem_cons_of_mem _ (List.mem_map_of_mem inside))
  have solid := Text.not_mem_pieces (List.mem_of_mem_filter member) (occurs.subset shown)
  rw [solid] at blank
  cases blank

end Section

namespace SettingsFile

open Section

theorem sectionFor?_of_blank {file : SettingsFile} {release : UInt16} {serial : Bytes} {byte : UInt8}
    (inside : byte ∈ serial) (blank : Text.isBlank (Text.latin1Char byte) = true) :
    file.sectionFor? (.of release serial) = none := by
  rw [sectionFor?, List.find?_eq_none]
  intro content _
  rw [lists_of_blank inside blank]
  exact Bool.false_ne_true

theorem settingsFor_of_sectionFor?_eq_none {file : SettingsFile} {title : TitleId}
    (absent : file.sectionFor? title = none) : file.settingsFor title = file.defaults := by
  rw [settingsFor, absent]
  exact Settings.none_filledFrom file.defaults

/-- A section that lists titles is for those and for no others, but for the titles whose release is
the end of a listed one of the same serial. A title with a blank in its serial is left to the
defaults by every settings file. -/
theorem resolve_titles {ε : Type} :
    (∀ (content line : List Char) (place : Nat) (listed : List ListedTitle),
      Leftmost titlesKey content place line →
      Text.words line = (listed.map fun entry => entry.id.text.toList) →
      (∀ entry ∈ listed, lists content entry.id = true) ∧
      ∀ (release : UInt16) (serial : Bytes), serial.length = 6 →
        (lists content (.of release serial) = true ↔ ∃ entry ∈ listed, entry.serial = serial ∧
          (toString release.toNat).toList <:+ (toString entry.release.toNat).toList)) ∧
    ∀ (release : UInt16) (serial : Bytes) (byte : UInt8), byte ∈ serial →
      ((0x09 ≤ byte ∧ byte ≤ 0x0D) ∨ byte = 0x20 ∨ byte = 0x85 ∨ byte = 0xA0) →
      (∀ content, lists content (.of release serial) = false) ∧
      ∀ file : SettingsFile, file.sectionFor? (.of release serial) = none ∧
        (file.resolve (.of release serial) : Logged ε Settings).outcome = .ok file.defaults := by
  constructor
  · intro content line place listed leftmost spelled
    have captured := (capture?_eq_some_iff titlesKey_mem_keys).mpr ⟨place, leftmost⟩
    exact ⟨lists_listed captured spelled, fun release serial => lists_iff captured spelled⟩
  · intro release serial byte inside blank
    have shown := Text.isBlank_latin1Char_iff.mpr blank
    refine ⟨lists_of_blank inside shown, fun file => ?_⟩
    have absent : file.sectionFor? (.of release serial) = none := sectionFor?_of_blank inside shown
    exact ⟨absent, congrArg Except.ok (settingsFor_of_sectionFor?_eq_none absent)⟩

/-- A section that lists two titles, with a no-break space between them. -/
def sampleContent : String := "\n\tid: 41.000000\u00A07.999999 \r\ntitle: Two\n"

def sampleListed : List ListedTitle :=
  [⟨41, List.replicate 6 0x30, rfl, by decide⟩, ⟨7, List.replicate 6 0x39, rfl, by decide⟩]

/-- The end of a listed release is enough and its beginning is not. Blanks are not enough. -/
theorem resolve_titles_sample :
    lists sampleContent.toList (.of 1 (List.replicate 6 0x30)) = true ∧
      lists sampleContent.toList (.of 4 (List.replicate 6 0x30)) = false ∧
      ((parse ("title: None\n%%" ++ sampleContent)).resolve (.of 7 (List.replicate 6 0xA0)) :
        Logged BundleError Settings).outcome = .ok ⟨"None", "", "", "", ""⟩ := by
  obtain ⟨titles, blanks⟩ := resolve_titles (ε := BundleError)
  have captured : capture? titlesKey sampleContent.toList =
      some " 41.000000\u00A07.999999 \r".toList := by decide +kernel
  obtain ⟨place, leftmost⟩ := leftmost_of_capture? titlesKey_mem_keys captured
  obtain ⟨_, listed⟩ := titles _ _ place sampleListed leftmost (by decide +kernel)
  obtain ⟨_, unlisted⟩ := blanks 7 (List.replicate 6 0xA0) 0xA0 (by decide) (by decide)
  obtain ⟨_, resolved⟩ := unlisted (parse ("title: None\n%%" ++ sampleContent))
  refine ⟨(listed 1 _ rfl).mpr (by decide +kernel), ?_, resolved.trans (by decide +kernel)⟩
  apply Bool.eq_false_iff.mpr
  exact mt (listed 4 _ rfl).mp (by decide +kernel)

end SettingsFile
end StoryBundle
