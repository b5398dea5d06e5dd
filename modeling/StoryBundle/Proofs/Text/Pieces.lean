import Mathlib.Data.List.DropRight
import Mathlib.Data.List.TakeWhile
import StoryBundle.Text.Blank

/-!
# Laws of cutting text

Cutting is splitting a list at the elements of a class (`pieces_eq_splitOnP`), so a line feed
divides a text into lines independently of each other (`lines_append_feed`), and lines or words that
were joined are cut apart again (`lines_flatMap_feed`, `words_intercalate`). Trimming leaves a run of
the characters that neither starts nor ends with a blank.
-/

namespace StoryBundle.Text

theorem pieces_eq_splitOnP (isSeparator : Char → Bool) (text : List Char) :
    pieces isSeparator text = text.splitOnP isSeparator := by
  induction text with
  | nil => rw [List.splitOnP_nil]; rfl
  | cons c rest ih =>
    rw [pieces_cons, List.splitOnP_cons_eq_if_modifyHead, ← ih]
    cases split : pieces isSeparator rest with
    | nil => exact absurd split (pieces_ne_nil isSeparator rest)
    | cons piece more => cases separates : isSeparator c <;> simp [addToPieces, separates]

/-! ## Lines -/

theorem lines_eq_splitOn (text : List Char) : lines text = text.splitOn '\n' := by
  rw [lines, pieces_eq_splitOnP, List.splitOn_eq_splitOnP]

theorem lines_append_feed (front rest : List Char) :
    lines (front ++ '\n' :: rest) = lines front ++ lines rest := by
  rw [lines_eq_splitOn, lines_eq_splitOn, lines_eq_splitOn, List.splitOn_append_cons_self]

theorem lines_cons {c : Char} (other : c ≠ '\n') (rest : List Char) :
    lines (c :: rest) = (lines rest).modifyHead (c :: ·) := by
  rw [lines, lines, pieces_eq_splitOnP, pieces_eq_splitOnP, List.splitOnP_cons_eq_if_modifyHead,
    if_neg (by simpa using other)]

theorem lines_of_plain {text : List Char} (plain : '\n' ∉ text) : lines text = [text] := by
  rw [lines_eq_splitOn, List.splitOn_eq_singleton plain]

/-- Texts are built line by line from the last one upwards. -/
@[elab_as_elim]
theorem line_induction {motive : List Char → Prop}
    (single : ∀ line, '\n' ∉ line → motive line)
    (above : ∀ line rest, '\n' ∉ line → motive rest → motive (line ++ '\n' :: rest))
    (text : List Char) : motive text := by
  by_cases feed : '\n' ∈ text
  · obtain ⟨line, rest, parts, plain⟩ := List.eq_append_cons_of_mem feed
    rw [parts]
    exact above line rest plain (line_induction single above rest)
  · exact single text feed
termination_by text.length
decreasing_by
  rw [parts, List.length_append, List.length_cons]
  omega

/-- Cutting makes no characters. -/
theorem mem_of_mem_lines {text line : List Char} {c : Char} (cut : line ∈ lines text)
    (inside : c ∈ line) : c ∈ text := by
  induction text using line_induction with
  | single only plain =>
    rw [lines_of_plain plain] at cut
    rwa [List.mem_singleton.mp cut] at inside
  | above first rest plain ih =>
    rw [lines_append_feed, lines_of_plain plain] at cut
    rcases List.mem_cons.mp cut with rfl | later
    · exact List.mem_append_left _ inside
    · exact List.mem_append_right _ (List.mem_cons_of_mem _ (ih later))

theorem feed_not_mem_of_mem_lines {text line : List Char} (cut : line ∈ lines text) :
    '\n' ∉ line := by
  intro inside
  have separates := not_mem_pieces cut inside
  simp at separates

/-- Lines that were joined are the lines of the result. -/
theorem lines_joinLines {all : List (List Char)} (nonempty : all ≠ [])
    (plain : ∀ line ∈ all, '\n' ∉ line) : lines (joinLines all) = all := by
  rw [lines_eq_splitOn, joinLines, List.splitOn_intercalate _ plain nonempty]

/-- Lines that each end in a line feed are followed by an empty one. -/
theorem lines_flatMap_feed {all : List (List Char)} (plain : ∀ line ∈ all, '\n' ∉ line) :
    lines (all.flatMap (· ++ ['\n'])) = all ++ [[]] := by
  induction all with
  | nil => rfl
  | cons line rest ih =>
    have later : ∀ other ∈ rest, '\n' ∉ other := fun other member =>
      plain other (List.mem_cons_of_mem _ member)
    rw [List.flatMap_cons, List.append_assoc, List.singleton_append, lines_append_feed,
      lines_of_plain (plain line List.mem_cons_self), ih later]
    rfl

/-! ## Words -/

theorem words_append_blank (front rest : List Char) {c : Char} (blank : isBlank c = true) :
    words (front ++ c :: rest) = words front ++ words rest := by
  rw [words, words, words, pieces_eq_splitOnP, pieces_eq_splitOnP, pieces_eq_splitOnP,
    List.splitOnP_append_cons front rest blank, List.filter_append]

theorem words_cons_blank {c : Char} (blank : isBlank c = true) (rest : List Char) :
    words (c :: rest) = words rest := by
  rw [← List.nil_append (c :: rest), words_append_blank [] rest blank]
  rfl

theorem words_of_solid {word : List Char} (present : word ≠ [])
    (solid : ∀ c ∈ word, isBlank c = false) : words word = [word] := by
  rw [words, pieces_eq_splitOnP, List.splitOnP_eq_singleton solid]
  simpa using present

/-- Words that were joined by spaces are the words of the result. -/
theorem words_intercalate {all : List (List Char)}
    (proper : ∀ word ∈ all, word ≠ [] ∧ ∀ c ∈ word, isBlank c = false) :
    words ([' '].intercalate all) = all := by
  induction all with
  | nil => rfl
  | cons word rest ih =>
    obtain ⟨present, solid⟩ := proper word List.mem_cons_self
    have later := ih fun other member => proper other (List.mem_cons_of_mem _ member)
    cases rest with
    | nil =>
      rw [List.intercalate_singleton]
      exact words_of_solid present solid
    | cons next others =>
      rw [List.intercalate_cons_cons, List.append_assoc, List.singleton_append,
        words_append_blank _ _ (by decide), words_of_solid present solid, later]
      rfl

/-- Joining adds no characters but the separator's. -/
theorem not_mem_intercalate {separator : List Char} {all : List (List Char)} {c : Char}
    (outside : c ∉ separator) (apart : ∀ word ∈ all, c ∉ word) :
    c ∉ separator.intercalate all := by
  induction all with
  | nil => exact List.not_mem_nil
  | cons word rest ih =>
    have later := ih fun other member => apart other (List.mem_cons_of_mem _ member)
    have first := apart word List.mem_cons_self
    cases rest with
    | nil =>
      rw [List.intercalate_singleton]
      exact first
    | cons next others =>
      rw [List.intercalate_cons_cons]
      simp only [List.mem_append, first, outside, later, or_self, not_false_eq_true]

/-! ## Trimming and searching -/

theorem trim_cons_blank {c : Char} (blank : isBlank c = true) (text : List Char) :
    trim (c :: text) = trim text := by
  rw [trim, trim, List.dropWhile_cons_of_pos blank]

theorem trim_eq (text : List Char) : trim text = (text.dropWhile isBlank).rdropWhile isBlank := rfl

theorem trim_append_blank (text : List Char) {c : Char} (blank : isBlank c = true) :
    trim (text ++ [c]) = trim text := by
  rw [trim_eq, trim_eq, List.dropWhile_append]
  split
  · rename_i empty
    rw [List.isEmpty_iff.mp empty, List.dropWhile_cons_of_pos blank, List.dropWhile_nil]
  · exact List.rdropWhile_concat_pos _ _ _ blank

/-- Trimming makes no characters. -/
theorem mem_of_mem_trim {text : List Char} {c : Char} (inside : c ∈ trim text) : c ∈ text := by
  rw [trim_eq] at inside
  exact (List.dropWhile_suffix _).mem ((List.rdropWhile_prefix _ _).mem inside)

theorem isBlank_of_mem_head?_trim {text : List Char} {c : Char} (first : c ∈ (trim text).head?) :
    isBlank c = false := by
  obtain ⟨after, spelled⟩ := List.rdropWhile_prefix isBlank (text.dropWhile isBlank)
  have kept : c ∈ (text.dropWhile isBlank).head? := by
    rw [← spelled, ← trim_eq, List.head?_append, first, Option.some_or]
    rfl
  have solid := List.head?_dropWhile_not isBlank text
  rw [kept] at solid
  exact solid

theorem isBlank_of_mem_getLast?_trim {text : List Char} {c : Char}
    (last : c ∈ (trim text).getLast?) : isBlank c = false := by
  obtain ⟨present, rfl⟩ := List.mem_getLast?_eq_getLast last
  exact Bool.eq_false_iff.mpr (List.rdropWhile_last_not isBlank _ present)

/-- Nothing is left of a text exactly if all of it is blank. -/
theorem trim_eq_nil_iff {text : List Char} : trim text = [] ↔ ∀ c ∈ text, isBlank c = true := by
  rw [trim_eq, List.rdropWhile_eq_nil_iff]
  constructor
  · intro blank c inside
    rw [← List.takeWhile_append_dropWhile (p := isBlank) (l := text)] at inside
    rcases List.mem_append.mp inside with before | after
    · exact List.mem_takeWhile_imp before
    · exact blank c after
  · intro blank c inside
    exact blank c ((List.dropWhile_suffix _).mem inside)

theorem occursIn_eq_true_iff {part text : List Char} :
    occursIn part text = true ↔ part <:+: text := by
  induction text with
  | nil => simp [occursIn]
  | cons c rest ih =>
    rw [occursIn, Bool.or_eq_true, ih, List.isPrefixOf_iff_prefix, List.infix_cons_iff]

end StoryBundle.Text
