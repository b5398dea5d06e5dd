import Mathlib.Data.List.Basic
import StoryBundle.Proofs.Bytes
import StoryBundle.Proofs.Story.Header
import StoryBundle.Proofs.Text.Digits
import StoryBundle.Settings.File
import StoryBundle.Story.Basic

/-!
# Titles as keys

A title's text is a release number, a dot and a serial of any length, which may itself have digits and
dots. The number has none of the latter, so the first dot of the text is where it ends, and the text
gives back both parts (`TitleId.of_eq_of_iff`). Of a story only the bytes of these two fields count
(`title_eq_iff_fields`).
-/

namespace StoryBundle

theorem Text.dot_not_mem_toString (value : Nat) : '.' ∉ (toString value).toList :=
  not_mem_toString (by decide) value

/-- Texts that are the same have the same parts on both sides of their first dots. -/
theorem Text.append_dot_inj {front back otherFront otherBack : List Char} (plain : '.' ∉ front)
    (otherPlain : '.' ∉ otherFront)
    (same : front ++ '.' :: back = otherFront ++ '.' :: otherBack) :
    front = otherFront ∧ back = otherBack := by
  induction front generalizing otherFront with
  | nil =>
    cases otherFront with
    | nil => exact ⟨rfl, (List.cons.inj same).2⟩
    | cons c rest =>
      obtain ⟨rfl, _⟩ := List.cons.inj same
      exact absurd List.mem_cons_self otherPlain
  | cons c rest ih =>
    cases otherFront with
    | nil =>
      obtain ⟨rfl, _⟩ := List.cons.inj same
      exact absurd List.mem_cons_self plain
    | cons other otherRest =>
      obtain ⟨rfl, behind⟩ := List.cons.inj same
      obtain ⟨rfl, backs⟩ := ih (List.not_mem_of_not_mem_cons plain)
        (List.not_mem_of_not_mem_cons otherPlain) behind
      exact ⟨rfl, backs⟩

namespace TitleId

theorem toList_text (release : UInt16) (serial : Bytes) :
    (TitleId.of release serial).text.toList =
      (toString release.toNat).toList ++ '.' :: serial.map Text.latin1Char := by
  change (toString release.toNat ++ "." ++ Text.latin1 serial).toList = _
  rw [String.toList_append, String.toList_append, Text.toList_latin1, List.append_assoc]
  rfl

theorem of_eq_of_iff {release otherRelease : UInt16} {serial otherSerial : Bytes} :
    of release serial = of otherRelease otherSerial ↔
      release = otherRelease ∧ serial = otherSerial := by
  constructor
  · intro same
    have spelled : (of release serial).text.toList = (of otherRelease otherSerial).text.toList :=
      congrArg (·.text.toList) same
    rw [toList_text, toList_text] at spelled
    obtain ⟨releases, serials⟩ := Text.append_dot_inj (Text.dot_not_mem_toString _)
      (Text.dot_not_mem_toString _) spelled
    exact ⟨UInt16.toNat_inj.mp (Text.toList_toString_injective releases),
      Text.map_latin1Char_injective serials⟩
  · rintro ⟨rfl, rfl⟩
    rfl

theorem read_of_long {story : Bytes} (enough : Header.size ≤ story.length) :
    read story = .ok (Header.ofFront story).title :=
  read_eq_ok_iff.mpr ⟨enough, rfl⟩

theorem exists_read_iff {story : Bytes} :
    (∃ title, read story = .ok title) ↔ Header.size ≤ story.length := by
  constructor
  · rintro ⟨title, started⟩
    exact (read_eq_ok_iff.mp started).1
  · intro enough
    exact ⟨_, read_of_long enough⟩

end TitleId

/-- Stories with a header have one title if they have the same bytes in two fields. The fields are
compared as a number and as text, but both have only one spelling. -/
theorem Header.title_ofFront_eq_iff {story other : Bytes} (enough : size ≤ story.length)
    (otherEnough : size ≤ other.length) :
    (ofFront story).title = (ofFront other).title ↔
      story.slice? 0x02 2 = other.slice? 0x02 2 ∧ story.slice? 0x12 6 = other.slice? 0x12 6 := by
  rw [size] at enough otherEnough
  have release {image : Bytes} (long : 0x1E ≤ image.length) :
      image.slice? 0x02 2 = some ((image.drop 0x02).take 2) :=
    Bytes.slice?_eq_some_iff.mpr ⟨by omega, rfl⟩
  have serial {image : Bytes} (long : 0x1E ≤ image.length) :
      image.slice? 0x12 6 = some ((image.drop 0x12).take 6) :=
    Bytes.slice?_eq_some_iff.mpr ⟨by omega, rfl⟩
  have words : Bytes.word16 ((story.drop 0x02).take 2) = Bytes.word16 ((other.drop 0x02).take 2) ↔
      (story.drop 0x02).take 2 = (other.drop 0x02).take 2 :=
    ⟨Bytes.word16_injective (Bytes.length_of_slice? (release enough))
      (Bytes.length_of_slice? (release otherEnough)), congrArg Bytes.word16⟩
  rw [release enough, release otherEnough, serial enough, serial otherEnough, Option.some.injEq,
    Option.some.injEq, ← words]
  exact TitleId.of_eq_of_iff

namespace Story

/-- A title's text tells its release and its serial, whatever the serial is. A story has a title if it
is as long as a header, and two stories have the same one exactly if the bytes of their releases and
serials are the same. Then every settings file makes the same settings for both. -/
theorem title_eq_iff_fields :
    (∀ release otherRelease serial otherSerial,
      TitleId.of release serial = TitleId.of otherRelease otherSerial ↔
        release = otherRelease ∧ serial = otherSerial) ∧
    (∀ story : Story, (∃ title, story.title = .ok title) ↔ 0x1E ≤ story.image.length) ∧
    ∀ story other : Story, 0x1E ≤ story.image.length → 0x1E ≤ other.image.length →
      (story.title = other.title ↔ story.image.slice? 0x02 2 = other.image.slice? 0x02 2 ∧
        story.image.slice? 0x12 6 = other.image.slice? 0x12 6) ∧
      (story.image.slice? 0x02 2 = other.image.slice? 0x02 2 →
        story.image.slice? 0x12 6 = other.image.slice? 0x12 6 →
        ∀ file : SettingsFile, ∃ settings,
          (Logged.quiet story.title >>= file.resolve).outcome = .ok settings ∧
          (Logged.quiet other.title >>= file.resolve).outcome = .ok settings) := by
  refine ⟨fun _ _ _ _ => TitleId.of_eq_of_iff, fun _ => TitleId.exists_read_iff, ?_⟩
  intro story other enough otherEnough
  have titled : story.title = .ok (Header.ofFront story.image).title := TitleId.read_of_long enough
  have otherTitled : other.title = .ok (Header.ofFront other.image).title :=
    TitleId.read_of_long otherEnough
  have same := Header.title_ofFront_eq_iff enough otherEnough
  constructor
  · rw [titled, otherTitled, Except.ok.injEq, same]
  · intro releases serials file
    have agreed := same.mpr ⟨releases, serials⟩
    refine ⟨file.settingsFor (Header.ofFront story.image).title, ?_, ?_⟩
    · rw [titled]
      rfl
    · rw [otherTitled, ← agreed]
      rfl

/-- A story of release 1 whose serial starts with a digit and a dot. -/
def dotted (version filler : UInt8) (length : Nat) : Bytes :=
  [version, filler, 0, 1] ++ List.replicate 14 filler ++ [0x31, 0x2E, 0x30, 0x30, 0x30, 0x30] ++
    List.replicate length filler

/-- Another version, another length and other bytes around the two fields make no difference. -/
theorem title_eq_iff_fields_sample : ∃ settings,
    0x1E ≤ (dotted 3 0x20 6).length ∧ 0x1E ≤ (dotted 5 0xFF 40).length ∧
      ((Logged.quiet (Story.title ⟨"/s/a", .bare, dotted 3 0x20 6⟩) >>=
        (SettingsFile.parse "%%\nid: 1.1.0000\ntitle: One").resolve).outcome = .ok settings) ∧
      ((Logged.quiet (Story.title ⟨"/s/b", .wrapped, dotted 5 0xFF 40⟩) >>=
        (SettingsFile.parse "%%\nid: 1.1.0000\ntitle: One").resolve).outcome = .ok settings) ∧
      settings.title = "One" := by
  obtain ⟨_, _, compared⟩ := title_eq_iff_fields
  obtain ⟨_, settled⟩ := compared ⟨"/s/a", .bare, dotted 3 0x20 6⟩
    ⟨"/s/b", .wrapped, dotted 5 0xFF 40⟩ (by decide) (by decide)
  obtain ⟨settings, first, second⟩ := settled (by decide) (by decide)
    (SettingsFile.parse "%%\nid: 1.1.0000\ntitle: One")
  refine ⟨settings, by decide, by decide, first, second, ?_⟩
  cases first
  decide +kernel

end Story
end StoryBundle
