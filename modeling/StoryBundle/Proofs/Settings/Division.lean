import StoryBundle.Proofs.Settings.Section
import StoryBundle.Settings.File

/-!
# How breaks divide a text

A break is a line of its own, so what stands in front of it and what follows it are divided
independently of each other (`split_append_break`). A text is therefore its sections with its breaks
between them, and they are the only sections that it has (`exists_parted`, `Parted.split_eq`). Which
breaks stand between the sections does not matter (`Parted.rebroken`), so a text can be put together
again from its sections alone (`sections_parse`).
-/

namespace StoryBundle.Text

/-- A line can start behind the text: it is empty or ends in a line feed. -/
def FeedEnded (text : List Char) : Prop := text = [] ∨ ['\n'] <:+ text

/-- A line can end in front of the text: it is empty or starts with a line feed. -/
def FeedLed (text : List Char) : Prop := text = [] ∨ ['\n'] <+: text

instance : DecidablePred FeedEnded := fun _ => inferInstanceAs (Decidable (_ ∨ _))

theorem FeedEnded.append {front : List Char} (ended : FeedEnded front) (line : List Char) :
    FeedEnded (line ++ '\n' :: front) := by
  rcases ended with rfl | ⟨lines, rfl⟩
  · exact .inr ⟨line, rfl⟩
  · exact .inr ⟨line ++ '\n' :: lines, by simp⟩

/-- A line without line feeds does not lead a text. What stands in front of it does. -/
theorem FeedLed.front {front line rest : List Char} (led : FeedLed (front ++ (line ++ rest)))
    (present : line ≠ []) (plain : '\n' ∉ line) : ['\n'] <+: front := by
  cases front with
  | nil =>
    obtain ⟨c, more, rfl⟩ := List.exists_cons_of_ne_nil present
    rcases led with empty | ⟨_, spelled⟩
    · cases empty
    · exact absurd (List.cons.inj spelled).1 (List.ne_of_not_mem_cons plain)
  | cons c more =>
    rcases led with empty | ⟨_, spelled⟩
    · cases empty
    · rw [← (List.cons.inj spelled).1]
      exact ⟨more, rfl⟩

end StoryBundle.Text

namespace StoryBundle.Section

open Text (FeedEnded FeedLed)

/-! ## Sections of a concatenation -/

theorem IsBreak.ne_nil {line : List Char} (breaks : IsBreak line) : line ≠ [] := by
  obtain ⟨before, after, ending, rfl, _⟩ := breaks
  simp

theorem split_line {line : List Char} (plain : '\n' ∉ line) : split line = addLine line [] := by
  rw [split, Text.lines_of_plain plain]
  rfl

theorem split_append_feed (front rest : List Char) :
    split (front ++ '\n' :: rest) = (Text.lines front).foldr addLine (split rest) := by
  rw [split, Text.lines_append_feed, List.foldr_append, split]

theorem split_line_above {line : List Char} (plain : '\n' ∉ line) (rest : List Char) :
    split (line ++ '\n' :: rest) = addLine line (split rest) := by
  rw [split_append_feed, Text.lines_of_plain plain]
  rfl

/-- The line feed that ends a break belongs to the section after it. -/
theorem split_feed (rest : List Char) : split ('\n' :: rest) = (split rest).modifyHead ('\n' :: ·) := by
  rw [← List.nil_append ('\n' :: rest), split_line_above List.not_mem_nil]
  obtain ⟨first, later, parts⟩ := List.exists_cons_of_ne_nil (split_ne_nil rest)
  rw [parts]
  rfl

theorem split_break {line rest : List Char} (breaks : IsBreak line) (plain : '\n' ∉ line)
    (led : FeedLed rest) : split (line ++ rest) = [] :: split rest := by
  have broken := isBreak_iff.mpr breaks
  rcases led with rfl | ⟨below, rfl⟩
  · rw [List.append_nil, split_line plain, addLine, if_pos broken]
    rfl
  · obtain ⟨first, later, parts⟩ := List.exists_cons_of_ne_nil (split_ne_nil below)
    rw [List.singleton_append, split_line_above plain, split_feed, parts, addLine, if_pos broken,
      List.modifyHead_cons]

/-- Sections that come later stay as they are. -/
theorem addLine_append (line : List Char) {sections : List (List Char)} (nonempty : sections ≠ [])
    (later : List (List Char)) : addLine line (sections ++ later) = addLine line sections ++ later := by
  obtain ⟨first, rest, rfl⟩ := List.exists_cons_of_ne_nil nonempty
  simp only [List.cons_append, addLine]
  split <;> rfl

theorem foldr_addLine_append (all : List (List Char)) {sections : List (List Char)}
    (nonempty : sections ≠ []) (later : List (List Char)) :
    all.foldr addLine (sections ++ later) = all.foldr addLine sections ++ later := by
  induction all with
  | nil => rfl
  | cons line rest ih =>
    have present : rest.foldr addLine sections ≠ [] := by
      cases rest with
      | nil => exact nonempty
      | cons next more => exact addLine_ne_nil next _
    rw [List.foldr_cons, ih, addLine_append line present, List.foldr_cons]

/-- The texts in front of a break and behind it have their sections apart from each other. -/
theorem split_append_break {front line rest : List Char} (ended : FeedEnded front)
    (breaks : IsBreak line) (plain : '\n' ∉ line) (led : FeedLed rest) :
    split (front ++ (line ++ rest)) = split front ++ split rest := by
  have below := split_break breaks plain led
  rcases ended with rfl | ⟨above, rfl⟩
  · exact below
  · have start : split [] = [[]] := rfl
    rw [List.append_assoc, List.singleton_append, split_append_feed, split_append_feed, below, start,
      ← foldr_addLine_append _ (List.cons_ne_nil _ _), List.singleton_append]

/-! ## Texts without breaks -/

/-- No line of a text breaks it. -/
def Unbroken (text : List Char) : Prop := ∀ line ∈ Text.lines text, ¬ IsBreak line

theorem unbroken_line_iff {line : List Char} (plain : '\n' ∉ line) :
    Unbroken line ↔ ¬ IsBreak line := by
  rw [Unbroken, Text.lines_of_plain plain, List.forall_mem_singleton]

theorem unbroken_line_above_iff {line : List Char} (plain : '\n' ∉ line) (rest : List Char) :
    Unbroken (line ++ '\n' :: rest) ↔ ¬ IsBreak line ∧ Unbroken rest := by
  rw [Unbroken, Text.lines_append_feed, Text.lines_of_plain plain, List.singleton_append,
    List.forall_mem_cons, Unbroken]

theorem unbroken_nil : Unbroken [] :=
  (unbroken_line_iff List.not_mem_nil).mpr fun empty => empty.ne_nil rfl

/-- A text that nothing breaks is one section. -/
theorem Unbroken.split_eq {text : List Char} (unbroken : Unbroken text) : split text = [text] := by
  have kept {line : List Char} (other : ¬ IsBreak line) : ¬ isBreak line = true := mt isBreak_iff.mp other
  induction text using Text.line_induction with
  | single line plain =>
    have other := (unbroken_line_iff plain).mp unbroken
    rw [split_line plain, addLine, if_neg (kept other)]
  | above line rest plain ih =>
    obtain ⟨other, below⟩ := (unbroken_line_above_iff plain rest).mp unbroken
    rw [split_line_above plain, ih below, addLine, if_neg (kept other)]

/-! ## Breaks -/

/-- The lines that break a text. -/
def breaks (text : List Char) : List (List Char) := (Text.lines text).filter IsBreak

theorem breaks_append_feed (front rest : List Char) :
    breaks (front ++ '\n' :: rest) = breaks front ++ breaks rest := by
  rw [breaks, Text.lines_append_feed, List.filter_append]
  rfl

theorem breaks_eq_nil_iff {text : List Char} : breaks text = [] ↔ Unbroken text := by
  simp [breaks, Unbroken]

theorem breaks_append_break {front line rest : List Char} (ended : FeedEnded front)
    (broken : IsBreak line) (plain : '\n' ∉ line) (led : FeedLed rest) :
    breaks (front ++ (line ++ rest)) = breaks front ++ line :: breaks rest := by
  have start : breaks [] = [] := by decide
  have own : breaks line = [line] := by
    rw [breaks, Text.lines_of_plain plain]
    simpa using broken
  have below : breaks (line ++ rest) = line :: breaks rest := by
    rcases led with rfl | ⟨below, rfl⟩
    · rw [List.append_nil, own, start]
    · rw [List.singleton_append, breaks_append_feed, own, ← List.nil_append ('\n' :: below),
        breaks_append_feed, start]
      rfl
  rcases ended with rfl | ⟨above, rfl⟩
  · rw [List.nil_append, below, start]
    rfl
  · rw [List.append_assoc, List.singleton_append, breaks_append_feed, breaks_append_feed, below,
      start, List.append_nil]

/-! ## Sections with breaks between them -/

/-- `Parted text sections breaks`: the text consists of the sections with the breaks between them.
No line of a section is a break, and each break is a line of its own. -/
inductive Parted : List Char → List (List Char) → List (List Char) → Prop
  | whole {text : List Char} : Unbroken text → Parted text [text] []
  | broken {front line rest : List Char} {sections breaks : List (List Char)} :
      Unbroken front → FeedEnded front → IsBreak line → '\n' ∉ line → FeedLed rest →
      Parted rest sections breaks → Parted (front ++ (line ++ rest)) (front :: sections) (line :: breaks)

/-- Sections with breaks between them, as far as there are breaks. -/
def alternate : List (List Char) → List (List Char) → List Char
  | [], _ => []
  | first :: _, [] => first
  | first :: rest, line :: breaks => first ++ (line ++ alternate rest breaks)

namespace Parted

variable {text : List Char} {sections breaks : List (List Char)}

/-- The parts of a text are its sections. -/
theorem split_eq (parted : Parted text sections breaks) : split text = sections := by
  induction parted with
  | whole unbroken => exact unbroken.split_eq
  | broken unbroken ended broken plain led _ ih =>
    rw [split_append_break ended broken plain led, unbroken.split_eq, ih]
    rfl

theorem breaks_eq (parted : Parted text sections breaks) : Section.breaks text = breaks := by
  induction parted with
  | whole unbroken => exact breaks_eq_nil_iff.mpr unbroken
  | broken unbroken ended broken plain led _ ih =>
    rw [breaks_append_break ended broken plain led, breaks_eq_nil_iff.mpr unbroken, ih]
    rfl

theorem alternate_eq (parted : Parted text sections breaks) : alternate sections breaks = text := by
  induction parted with
  | whole _ => rfl
  | broken _ _ _ _ _ _ ih => rw [alternate, ih]

theorem length_eq (parted : Parted text sections breaks) : sections.length = 1 + breaks.length := by
  induction parted with
  | whole _ => rfl
  | broken _ _ _ _ _ _ ih => rw [List.length_cons, ih, List.length_cons, Nat.add_assoc]

theorem unbroken (parted : Parted text sections breaks) : ∀ part ∈ sections, Unbroken part := by
  induction parted with
  | whole unbroken => exact List.forall_mem_singleton.mpr unbroken
  | broken unbroken _ _ _ _ _ ih => exact List.forall_mem_cons.mpr ⟨unbroken, ih⟩

/-- A line that breaks nothing joins the first section. -/
theorem line_above {line : List Char} (plain : '\n' ∉ line) (other : ¬ IsBreak line)
    (parted : Parted text sections breaks) :
    Parted (line ++ '\n' :: text) (sections.modifyHead (line ++ '\n' :: ·)) breaks := by
  cases parted with
  | whole unbroken => exact .whole ((unbroken_line_above_iff plain _).mpr ⟨other, unbroken⟩)
  | @broken front mark rest _ _ unbroken ended broken whole led below =>
    have joined := (unbroken_line_above_iff plain front).mpr ⟨other, unbroken⟩
    have parts := Parted.broken joined (ended.append line) broken whole led below
    rwa [List.append_assoc, List.cons_append] at parts

theorem single_break {line : List Char} (plain : '\n' ∉ line) (broken : IsBreak line) :
    Parted line [[], []] [line] := by
  have parted := Parted.broken unbroken_nil (.inl rfl) broken plain (.inl rfl) (.whole unbroken_nil)
  rwa [List.nil_append, List.append_nil] at parted

/-- A break has an empty section in front of it. -/
theorem break_above {line : List Char} (plain : '\n' ∉ line) (broken : IsBreak line)
    (parted : Parted text sections breaks) :
    Parted (line ++ '\n' :: text) ([] :: sections.modifyHead ('\n' :: ·)) (line :: breaks) :=
  .broken unbroken_nil (.inl rfl) broken plain (.inr ⟨text, rfl⟩)
    (parted.line_above List.not_mem_nil fun empty => empty.ne_nil rfl)

/-- A text that a line feed leads has a first section that it leads. -/
theorem led_head (parted : Parted text sections breaks) (led : FeedLed text) :
    sections = [text] ∧ breaks = [] ∨ ∃ first later, sections = first :: later ∧ ['\n'] <+: first := by
  cases parted with
  | whole _ => exact .inl ⟨rfl, rfl⟩
  | broken _ _ broken plain _ _ => exact .inr ⟨_, _, rfl, led.front broken.ne_nil plain⟩

theorem led_of_mem_tail (parted : Parted text sections breaks) :
    ∀ part ∈ sections.tail, FeedLed part := by
  induction parted with
  | whole _ => exact List.forall_mem_nil _
  | broken _ _ _ _ led below ih =>
    rcases below.led_head led with ⟨rfl, _⟩ | ⟨first, later, rfl, firstLed⟩
    · simpa using led
    · exact List.forall_mem_cons.mpr ⟨.inr firstLed, ih⟩

theorem ended_of_mem_dropLast (parted : Parted text sections breaks) :
    ∀ part ∈ sections.dropLast, FeedEnded part := by
  induction parted with
  | whole _ => exact List.forall_mem_nil _
  | broken _ ended _ _ _ below ih =>
    have nonempty := below.split_eq ▸ split_ne_nil _
    rw [List.dropLast_cons_of_ne_nil nonempty]
    exact List.forall_mem_cons.mpr ⟨ended, ih⟩

/-- Other breaks may stand between the sections. -/
theorem rebroken (parted : Parted text sections breaks) {others : List (List Char)}
    (sameLength : others.length = breaks.length) (broken : ∀ line ∈ others, IsBreak line)
    (plain : ∀ line ∈ others, '\n' ∉ line) : Parted (alternate sections others) sections others := by
  induction parted generalizing others with
  | whole unbroken =>
    obtain rfl := List.length_eq_zero_iff.mp sameLength
    exact .whole unbroken
  | @broken _ _ _ sections _ unbroken ended _ _ led below ih =>
    cases others with
    | nil => cases sameLength
    | cons line more =>
      obtain ⟨lineBreaks, moreBreak⟩ := List.forall_mem_cons.mp broken
      obtain ⟨linePlain, morePlain⟩ := List.forall_mem_cons.mp plain
      have again := ih (Nat.succ.inj sameLength) moreBreak morePlain
      have still : FeedLed (alternate sections more) := by
        rcases below.led_head led with ⟨rfl, rfl⟩ | ⟨first, later, rfl, ⟨rest, rfl⟩⟩
        · rw [List.length_eq_zero_iff.mp (Nat.succ.inj sameLength)]
          exact led
        · cases more with
          | nil => exact .inr ⟨rest, rfl⟩
          | cons next others => exact .inr ⟨rest ++ (next ++ alternate later others), by simp [alternate]⟩
      exact .broken unbroken ended lineBreaks linePlain still again

/-- Where a break stands a line can end in front of it, and one can start behind it. -/
theorem own_line (parted : Parted text sections breaks) {place : Nat} (inside : place < breaks.length) :
    FeedEnded (alternate (sections.take (place + 1)) (breaks.take place)) ∧
      FeedLed (alternate (sections.drop (place + 1)) (breaks.drop (place + 1))) := by
  induction parted generalizing place with
  | whole _ => cases inside
  | @broken front line _ sections breaks _ ended _ _ led below ih =>
    cases place with
    | zero =>
      change FeedEnded front ∧ FeedLed (alternate sections breaks)
      exact ⟨ended, below.alternate_eq.symm ▸ led⟩
    | succ place =>
      obtain ⟨above, behind⟩ := ih (Nat.lt_of_succ_lt_succ inside)
      refine ⟨.inr ?_, behind⟩
      -- The sections in front of this break and behind the first one are not empty.
      rcases below.led_head led with ⟨_, rfl⟩ | ⟨first, later, rfl, ⟨rest, rfl⟩⟩
      · cases Nat.lt_of_succ_lt_succ inside
      · rcases above with empty | ended
        · cases breaks with
          | nil => cases Nat.lt_of_succ_lt_succ inside
          | cons next more => cases place <;> cases empty
        · exact (ended.trans (List.suffix_append _ _)).trans (List.suffix_append _ _)

end Parted

/-- Every text has parts. -/
theorem exists_parted (text : List Char) : ∃ sections breaks, Parted text sections breaks := by
  induction text using Text.line_induction with
  | single line plain =>
    by_cases broken : IsBreak line
    · exact ⟨_, _, .single_break plain broken⟩
    · exact ⟨_, _, .whole ((unbroken_line_iff plain).mpr broken)⟩
  | above line rest plain ih =>
    obtain ⟨sections, breaks, below⟩ := ih
    by_cases broken : IsBreak line
    · exact ⟨_, _, below.break_above plain broken⟩
    · exact ⟨_, _, below.line_above plain broken⟩

theorem parted_split (text : List Char) : Parted text (split text) (breaks text) := by
  obtain ⟨sections, lines, parted⟩ := exists_parted text
  rw [parted.split_eq, parted.breaks_eq]
  exact parted

/-- How breaks divide a text into sections. -/
structure Divides (text : List Char) (sections breaks : List (List Char)) : Prop where
  /-- The sections with the breaks between them are the whole text. -/
  alternate_eq : alternate sections breaks = text
  /-- The breaks are the lines of the text that have their form. -/
  breaks_eq : breaks = (Text.lines text).filter IsBreak
  length_eq : sections.length = 1 + breaks.length
  /-- Each break is a line where it stands. -/
  own_line : ∀ place < breaks.length,
    FeedEnded (alternate (sections.take (place + 1)) (breaks.take place)) ∧
      FeedLed (alternate (sections.drop (place + 1)) (breaks.drop (place + 1)))
  unbroken : ∀ part ∈ sections, Unbroken part
  ended : ∀ part ∈ sections.dropLast, FeedEnded part
  led : ∀ part ∈ sections.tail, FeedLed part

theorem Parted.divides {text : List Char} {sections breaks : List (List Char)}
    (parted : Parted text sections breaks) : Divides text sections breaks where
  alternate_eq := parted.alternate_eq
  breaks_eq := parted.breaks_eq.symm
  length_eq := parted.length_eq
  own_line := fun _ => parted.own_line
  unbroken := parted.unbroken
  ended := parted.ended_of_mem_dropLast
  led := parted.led_of_mem_tail

/-- One break for each gap is what joins the sections. -/
theorem alternate_replicate (line : List Char) (first : List Char) (rest : List (List Char)) :
    alternate (first :: rest) (List.replicate rest.length line) = line.intercalate (first :: rest) := by
  induction rest generalizing first with
  | nil => rw [List.intercalate_singleton]; rfl
  | cons next more ih =>
    rw [List.length_cons, List.replicate_succ, alternate, ih, List.intercalate_cons_cons,
      List.append_assoc]

/-- Sections that were joined by breaks are found again. -/
theorem split_intercalate (text : List Char) :
    split (['%', '%'].intercalate (split text)) = split text := by
  have parted := parted_split text
  obtain ⟨first, rest, parts⟩ := List.exists_cons_of_ne_nil (split_ne_nil text)
  have gaps : rest.length = (breaks text).length := by
    have length := parted.length_eq
    rw [parts, List.length_cons] at length
    omega
  have signs : ∀ line ∈ List.replicate rest.length ['%', '%'], line = ['%', '%'] :=
    fun line member => (List.mem_replicate.mp member).2
  rw [parts] at parted ⊢
  rw [← alternate_replicate]
  refine (parted.rebroken (by rw [List.length_replicate, gaps]) ?_ ?_).split_eq
  · intro line member
    rw [signs line member]
    exact isBreak_iff.mp rfl
  · intro line member
    rw [signs line member]
    decide

end StoryBundle.Section

namespace StoryBundle.SettingsFile

open Section

theorem sections_eq (text : String) :
    (parse text).sections = (split text.toList).map String.ofList := by
  obtain ⟨first, rest, parts⟩ := List.exists_cons_of_ne_nil (split_ne_nil text.toList)
  rw [parse, parts]
  rfl

theorem map_toList_sections (text : String) :
    (parse text).sections.map String.toList = split text.toList := by
  rw [sections_eq, List.map_map]
  exact List.map_id'' (fun part => String.toList_ofList) _

/-- A text is its sections with the breaks between them, each section is a text of one section, and
the text that two percent signs join from the sections has the same ones. -/
theorem sections_parse (text : String) :
    (∃ breaks, Divides text.toList ((parse text).sections.map String.toList) breaks) ∧
      (∀ part ∈ (parse text).sections, (parse part).sections = [part]) ∧
      (parse ("%%".intercalate (parse text).sections)).sections = (parse text).sections := by
  have parted := parted_split text.toList
  refine ⟨⟨breaks text.toList, ?_⟩, ?_, ?_⟩
  · rw [map_toList_sections]
    exact parted.divides
  · intro part member
    rw [sections_eq, List.mem_map] at member
    obtain ⟨own, listed, rfl⟩ := member
    have unbroken : Unbroken own := parted.unbroken own listed
    rw [sections_eq, String.toList_ofList, unbroken.split_eq]
    rfl
  · have joined : ("%%".intercalate (parse text).sections).toList =
        ['%', '%'].intercalate (split text.toList) := by
      rw [String.toList_intercalate, map_toList_sections]
      rfl
    rw [sections_eq, joined, split_intercalate, ← sections_eq]

/-- Breaks that follow each other have a section between them, and so does one at the end. -/
example : (parse "a\n%%\n \t%% \r\nb\n%%").sections = ["a\n", "\n", "\nb\n", ""] := by
  decide +kernel

end StoryBundle.SettingsFile
