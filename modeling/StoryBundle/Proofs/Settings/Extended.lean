import StoryBundle.Bundle.Error
import StoryBundle.Proofs.Settings.Division

/-!
# Adding titles to a settings file

A break and more text behind a settings file add sections to it and leave those that were there as
they are (`sections_extended`). So a title that had a section keeps it with all its settings, and any
other title gets the first of the added sections that is for it (`resolve_extended`).
-/

namespace StoryBundle

theorem Settings.none_filledFrom (defaults : Settings) : none.filledFrom defaults = defaults := by
  apply ext_get
  intro setting
  rw [filledFrom, none, get_ofValues, get_ofValues, if_pos rfl]

namespace SettingsFile

open Section

/-- The text of a settings file with a break and more text behind it. -/
def extended (text more : String) : String := text ++ "%%\n" ++ more

/-- The sections of a text that follows a break. The line feed that ends the break is in the first. -/
def introduced (more : String) : List String := (parse ("\n" ++ more)).sections

theorem toList_feed_append (text : String) : ("\n" ++ text).toList = '\n' :: text.toList :=
  String.toList_append

theorem introduced_eq (more : String) :
    introduced more = ("\n" ++ (parse more).defaultsSection) :: (parse more).titleSections := by
  have own : (parse more).defaultsSection :: (parse more).titleSections =
      (split more.toList).map String.ofList := sections_eq more
  obtain ⟨first, rest, parts⟩ := List.exists_cons_of_ne_nil (split_ne_nil more.toList)
  rw [parts, List.map_cons, List.cons.injEq] at own
  obtain ⟨defaults, titles⟩ := own
  have joined : String.ofList ('\n' :: first) = "\n" ++ String.ofList first :=
    @String.ofList_append ['\n'] first
  rw [introduced, sections_eq, toList_feed_append, split_feed, parts, List.modifyHead_cons,
    List.map_cons, joined, defaults, titles]

/-- A title is resolved by its section and the defaults. -/
theorem resolve_eq_of_sectionFor? {ε : Type} {file other : SettingsFile} {title : TitleId}
    (defaults : file.defaults = other.defaults)
    (sections : file.sectionFor? title = other.sectionFor? title) :
    (file.resolve title : Logged ε Settings) = other.resolve title := by
  rw [resolve, resolve, settingsFor, settingsFor, resolveNote, resolveNote, defaults, sections]

section

variable {text : String} (ended : Text.FeedEnded text.toList) (more : String)

include ended

theorem sections_extended :
    (parse (extended text more)).sections = (parse text).sections ++ introduced more := by
  have shape : (extended text more).toList =
      text.toList ++ (['%', '%'] ++ ("\n" ++ more).toList) := by
    simp [extended, String.toList_append]
  have led : Text.FeedLed ("\n" ++ more).toList := .inr ⟨more.toList, (toList_feed_append more).symm⟩
  rw [sections_eq, shape, split_append_break ended (isBreak_iff.mp rfl) (by decide) led,
    List.map_append, ← sections_eq, ← sections_eq, introduced]

theorem defaults_extended : (parse (extended text more)).defaults = (parse text).defaults := by
  have sections := sections_extended ended more
  exact congrArg Settings.ofSection (List.cons.inj sections).1

/-- A section for a title is looked for among those that were there and then among the others. -/
theorem sectionFor?_extended (title : TitleId) :
    (parse (extended text more)).sectionFor? title = ((parse text).sectionFor? title).or
      ((introduced more).find? fun content => lists content.toList title) := by
  have titles : (parse (extended text more)).titleSections =
      (parse text).titleSections ++ introduced more :=
    (List.cons.inj (sections_extended ended more)).2
  rw [sectionFor?, titles, List.find?_append, ← sectionFor?]

end

/-- What stands behind a break leaves a title alone that had a section. For another title the first of
the added sections counts, whatever the defaults say of titles. -/
theorem resolve_extended {ε : Type} {text : String} (ended : Text.FeedEnded text.toList)
    (more : String) (title : TitleId) :
    (parse (extended text more)).sections = (parse text).sections ++ introduced more ∧
      introduced more = ("\n" ++ (parse more).defaultsSection) :: (parse more).titleSections ∧
      (∀ content, (parse text).sectionFor? title = some content →
        (parse (extended text more)).sectionFor? title = some content ∧
        ((parse (extended text more)).resolve title : Logged ε Settings) =
          (parse text).resolve title) ∧
      ((parse text).sectionFor? title = none →
        (parse (extended text more)).sectionFor? title =
          (introduced more).find? (fun content => lists content.toList title) ∧
        ((parse (extended text more)).resolve title : Logged ε Settings).outcome = .ok
          (match (introduced more).find? fun content => lists content.toList title with
          | some content => (Settings.ofSection content).filledFrom (parse text).defaults
          | none => (parse text).defaults)) := by
  have chosen := sectionFor?_extended ended more title
  refine ⟨sections_extended ended more, introduced_eq more, ?_, ?_⟩
  · intro content own
    rw [own, Option.some_or] at chosen
    exact ⟨chosen, resolve_eq_of_sectionFor? (defaults_extended ended more) (chosen.trans own.symm)⟩
  · intro absent
    rw [absent, Option.none_or] at chosen
    refine ⟨chosen, ?_⟩
    rw [outcome_resolve, settingsFor, chosen, defaults_extended ended more]
    cases (introduced more).find? fun content => lists content.toList title with
    | some content => rfl
    | none => exact congrArg Except.ok (Settings.none_filledFrom _)

/-- The defaults look like a section for `1.2`. -/
def sampleBase : String := "id: 1.2\nwidth: 8\n%%\nid: 3.4\ntitle: A\n"

/-- The second of its sections is for both titles. -/
def sampleMore : String := "title: B\n%%\nid: 3.4 1.2\ntitle: C"

theorem resolve_extended_sample :
    Text.FeedEnded sampleBase.toList ∧
      (parse sampleBase).sectionFor? ⟨"3.4"⟩ = some "\nid: 3.4\ntitle: A\n" ∧
      ((parse (extended sampleBase sampleMore)).resolve ⟨"3.4"⟩ : Logged BundleError Settings) =
        (parse sampleBase).resolve ⟨"3.4"⟩ ∧
      (parse sampleBase).sectionFor? ⟨"1.2"⟩ = none ∧
      ((parse (extended sampleBase sampleMore)).resolve ⟨"1.2"⟩ :
        Logged BundleError Settings).outcome =
          .ok { Settings.none with title := "C", width := "8" } := by
  have ended : Text.FeedEnded sampleBase.toList := by decide +kernel
  have own : (parse sampleBase).sectionFor? ⟨"3.4"⟩ = some "\nid: 3.4\ntitle: A\n" := by
    decide +kernel
  have absent : (parse sampleBase).sectionFor? ⟨"1.2"⟩ = none := by decide +kernel
  obtain ⟨_, _, kept, _⟩ := resolve_extended (ε := BundleError) ended sampleMore ⟨"3.4"⟩
  obtain ⟨_, _, _, added⟩ := resolve_extended (ε := BundleError) ended sampleMore ⟨"1.2"⟩
  refine ⟨ended, own, (kept _ own).2, absent, (added absent).2.trans (congrArg Except.ok ?_)⟩
  decide +kernel

end SettingsFile
end StoryBundle
