import Mathlib.Data.List.TakeWhile
import StoryBundle.Proofs.Text.Pieces
import StoryBundle.Settings.Section

/-!
# Sections as runs of lines

A section matters only for the lines that a reader of it recognises: those that break the file and
those that start with a key. The recognised lines of the sections are the runs between the breaks in
the recognised lines of the text (`map_split`), and a search for a key sees no other line
(`capture?_eq_findSome?`). So the values of a section and the titles that it is for can be read from
its recognised lines (`value_eq_valueIn`, `lists_eq_listsIn`).
-/

namespace StoryBundle.Section

/-! ## Lines -/

/-- Two percent signs between spaces and tabs, and perhaps a carriage return at the end. -/
def IsBreak (line : List Char) : Prop :=
  ∃ before after ending, line = before ++ '%' :: '%' :: (after ++ ending) ∧
    (∀ c ∈ before, Text.isIndent c = true) ∧ (∀ c ∈ after, Text.isIndent c = true) ∧
    (ending = [] ∨ ending = ['\r'])

/-- The words that may stand in front of a colon. -/
def keys : List (List Char) := titlesKey :: Setting.all.map fun setting => setting.key.toList

/-- A line that breaks a file or starts, after spaces and tabs, with a key and a colon. -/
def Recognised (line : List Char) : Prop :=
  IsBreak line ∨ ∃ key ∈ keys, key ++ [':'] <+: line.dropWhile Text.isIndent

theorem isBreak_iff {line : List Char} : isBreak line = true ↔ IsBreak line := by
  constructor
  · intro breaks
    unfold isBreak at breaks
    split at breaks
    · rename_i rest signs
      simp only [Bool.or_eq_true, beq_iff_eq] at breaks
      refine ⟨line.takeWhile Text.isIndent, rest.takeWhile Text.isIndent,
        rest.dropWhile Text.isIndent, ?_, fun c => List.mem_takeWhile_imp,
        fun c => List.mem_takeWhile_imp, breaks⟩
      rw [List.takeWhile_append_dropWhile, ← signs, List.takeWhile_append_dropWhile]
    · cases breaks
  · rintro ⟨before, after, ending, rfl, front, middle, rfl | rfl⟩
    all_goals
      rw [isBreak, List.dropWhile_append_of_pos front,
        List.dropWhile_cons_of_neg (by decide)]
      simp only [List.dropWhile_append_of_pos middle]
      rfl

instance : DecidablePred IsBreak := fun _ => decidable_of_iff _ isBreak_iff

instance : DecidablePred Recognised := fun line =>
  inferInstanceAs (Decidable (IsBreak line ∨ ∃ key ∈ keys, key ++ [':'] <+: line.dropWhile _))

theorem recognised_of_isBreak {line : List Char} (breaks : isBreak line = true) :
    Recognised line := .inl (isBreak_iff.mp breaks)

/-- Only a recognised line has a key. -/
theorem recognised_of_labelled? {key line : List Char} (known : key ∈ keys)
    (labelled : labelled? key line ≠ none) : Recognised line := by
  by_cases starts : (key ++ [':']).isPrefixOf (line.dropWhile Text.isIndent)
  · exact .inr ⟨key, known, List.isPrefixOf_iff_prefix.mp starts⟩
  · exact absurd (if_neg starts) labelled

/-! ## Runs of lines -/

/-- The recognised lines of a text. -/
def recognisedLines (text : List Char) : List (List Char) := (Text.lines text).filter Recognised

theorem recognisedLines_nil : recognisedLines [] = [] := by decide

theorem recognisedLines_append_feed (front rest : List Char) :
    recognisedLines (front ++ '\n' :: rest) = recognisedLines front ++ recognisedLines rest := by
  rw [recognisedLines, Text.lines_append_feed, List.filter_append]
  rfl

/-- An empty line is not recognised. -/
theorem recognisedLines_feed (rest : List Char) :
    recognisedLines ('\n' :: rest) = recognisedLines rest := by
  rw [← List.nil_append ('\n' :: rest), recognisedLines_append_feed, recognisedLines_nil,
    List.nil_append]

theorem addLine_ne_nil (line : List Char) (below : List (List Char)) : addLine line below ≠ [] := by
  unfold addLine
  split <;> split <;> simp

theorem split_ne_nil (text : List Char) : split text ≠ [] := by
  rw [split]
  cases below : Text.lines text with
  | nil => exact absurd below (Text.pieces_ne_nil _ text)
  | cons line rest => exact addLine_ne_nil line _

/-- What a line adds to the recognised lines of the sections below it. -/
theorem map_addLine (line below : List Char) (rest : List (List Char)) :
    (addLine line (below :: rest)).map recognisedLines =
      if isBreak line then [] :: recognisedLines below :: rest.map recognisedLines
      else (recognisedLines line ++ recognisedLines below) :: rest.map recognisedLines := by
  cases breaks : isBreak line with
  | true => simp [addLine, breaks, recognisedLines_nil, recognisedLines_feed]
  | false => simp [addLine, breaks, recognisedLines_append_feed]

/-- The last line has an empty section below it, apart from the line feed in between. -/
theorem map_addLine_nil (line : List Char) :
    (addLine line []).map recognisedLines = (addLine line [[]]).map recognisedLines := by
  rw [map_addLine, recognisedLines_nil, List.append_nil, List.map_nil]
  cases breaks : isBreak line <;> simp [addLine, breaks, recognisedLines_nil]

theorem map_addLine_eq_splitOnP {line : List Char} {below rest : List (List Char)}
    (plain : '\n' ∉ line) (nonempty : below ≠ [])
    (same : below.map recognisedLines = (rest.filter Recognised).splitOnP isBreak) :
    (addLine line below).map recognisedLines =
      ((line :: rest).filter Recognised).splitOnP isBreak := by
  cases below with
  | nil => exact absurd rfl nonempty
  | cons first others =>
    rw [List.map_cons] at same
    have own : recognisedLines line = [line].filter Recognised := by
      rw [recognisedLines, Text.lines_of_plain plain]
    by_cases known : Recognised line
    · have all : (line :: rest).filter Recognised = line :: rest.filter Recognised :=
        List.filter_cons_of_pos (decide_eq_true known)
      rw [map_addLine, own, all, List.splitOnP_cons_eq_if_modifyHead, ← same]
      simp [known]
    · -- Every break is recognised, so this line breaks nothing.
      have whole : isBreak line = false := by
        simpa using mt recognised_of_isBreak known
      have all : (line :: rest).filter Recognised = rest.filter Recognised :=
        List.filter_cons_of_neg (by simpa using known)
      rw [map_addLine, own, all, ← same]
      simp [known, whole]

theorem map_foldr_addLine {all : List (List Char)} (nonempty : all ≠ [])
    (plain : ∀ line ∈ all, '\n' ∉ line) :
    (all.foldr addLine []).map recognisedLines = (all.filter Recognised).splitOnP isBreak := by
  induction all with
  | nil => exact absurd rfl nonempty
  | cons line rest ih =>
    have own := plain line List.mem_cons_self
    rw [List.foldr_cons]
    cases rest with
    | nil =>
      rw [List.foldr_nil, map_addLine_nil]
      exact map_addLine_eq_splitOnP own (List.cons_ne_nil _ _) rfl
    | cons next others =>
      have below := ih (List.cons_ne_nil _ _) fun other member =>
        plain other (List.mem_cons_of_mem _ member)
      exact map_addLine_eq_splitOnP own (addLine_ne_nil next _) below

/-- The recognised lines of the sections are the runs between the breaks. -/
theorem map_split (text : List Char) :
    (split text).map recognisedLines = (recognisedLines text).splitOnP isBreak :=
  map_foldr_addLine (Text.pieces_ne_nil _ text) fun _ => Text.feed_not_mem_of_mem_lines

/-! ## What a section says -/

theorem findSome?_filter_of_some {α β : Type} {f : α → Option β} {keeps : α → Bool}
    (kept : ∀ item, f item ≠ none → keeps item = true) (all : List α) :
    (all.filter keeps).findSome? f = all.findSome? f := by
  induction all with
  | nil => rfl
  | cons item rest ih =>
    cases found : f item with
    | some value =>
      rw [List.filter_cons_of_pos (kept item (by simp [found]))]
      simp [found]
    | none =>
      rw [List.findSome?_cons_of_isNone (by simp [found]), ← ih, List.filter_cons]
      split
      · exact List.findSome?_cons_of_isNone (by simp [found])
      · rfl

/-- A key is searched for in the recognised lines. -/
theorem capture?_eq_findSome? {key : List Char} (known : key ∈ keys) (content : List Char) :
    capture? key content = (recognisedLines content).findSome? (labelled? key) := by
  have kept : ∀ line, labelled? key line ≠ none → decide (Recognised line) = true :=
    fun line labelled => decide_eq_true (recognised_of_labelled? known labelled)
  rw [recognisedLines, findSome?_filter_of_some kept]
  rfl

/-- The value of a setting in a section with the given lines. -/
def valueIn (body : List (List Char)) (setting : Setting) : List Char :=
  match body.findSome? (labelled? setting.key.toList) with
  | some captured => Text.trim captured
  | none => []

/-- A section with the given lines is for a title. -/
def listsIn (body : List (List Char)) (title : TitleId) : Bool :=
  match body.findSome? (labelled? titlesKey) with
  | some titles => (Text.words titles).any (Text.occursIn title.text.toList)
  | none => false

theorem titlesKey_mem_keys : titlesKey ∈ keys := List.mem_cons_self

theorem key_mem_keys (setting : Setting) : setting.key.toList ∈ keys :=
  List.mem_cons_of_mem _ (List.mem_map_of_mem setting.mem_all)

theorem value_eq_valueIn (content : List Char) (setting : Setting) :
    value content setting = valueIn (recognisedLines content) setting := by
  rw [value, capture?_eq_findSome? (key_mem_keys setting)]
  rfl

theorem lists_eq_listsIn (content : List Char) (title : TitleId) :
    lists content title = listsIn (recognisedLines content) title := by
  rw [lists, capture?_eq_findSome? titlesKey_mem_keys]
  rfl

end StoryBundle.Section
