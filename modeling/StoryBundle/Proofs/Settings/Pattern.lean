import StoryBundle.Proofs.Settings.Division
import StoryBundle.Proofs.Settings.Written

/-!
# Reading a setting as matching a pattern

A key with a colon may stand at the start of any line, behind spaces and tabs, and what follows it
up to the end of the line is captured. Reading a section line by line captures what the leftmost
such place of the whole text captures (`capture?_eq_some_iff`). So a setting has the trimmed capture
of its leftmost match for a value, even if that is blank and a later line has more to say
(`get_eq_leftmost`).
-/

namespace StoryBundle.Text

/-! ## Lines at places -/

/-- `LineAt text place line`: the line of the text that starts at the place is `line`. -/
def LineAt (text : List Char) (place : Nat) (line : List Char) : Prop :=
  ∃ before after, text = before ++ (line ++ after) ∧ before.length = place ∧ FeedEnded before ∧
    '\n' ∉ line ∧ FeedLed after

theorem FeedEnded.eq_nil {text : List Char} (ended : FeedEnded text) (plain : '\n' ∉ text) :
    text = [] := by
  rcases ended with empty | ends
  · exact empty
  · exact absurd (ends.mem List.mem_cons_self) plain

theorem FeedLed.eq_nil {text : List Char} (led : FeedLed text) (plain : '\n' ∉ text) :
    text = [] := by
  rcases led with empty | starts
  · exact empty
  · exact absurd (starts.mem List.mem_cons_self) plain

/-- A text without line feeds is a line of its own. -/
theorem lineAt_iff_of_plain {text line : List Char} {place : Nat} (plain : '\n' ∉ text) :
    LineAt text place line ↔ place = 0 ∧ line = text := by
  constructor
  · rintro ⟨before, after, rfl, rfl, ended, _, led⟩
    simp only [List.mem_append, not_or] at plain
    rw [ended.eq_nil plain.1, led.eq_nil plain.2.2, List.append_nil]
    exact ⟨rfl, rfl⟩
  · rintro ⟨rfl, rfl⟩
    exact ⟨[], [], (List.append_nil _).symm, rfl, .inl rfl, plain, .inl rfl⟩

/-- The first line feed of a text is in one place. -/
theorem feed_inj {front rest otherFront otherRest : List Char} (plain : '\n' ∉ front)
    (otherPlain : '\n' ∉ otherFront)
    (same : front ++ '\n' :: rest = otherFront ++ '\n' :: otherRest) :
    front = otherFront ∧ rest = otherRest := by
  have cut := congrArg lines same
  rw [lines_append_feed, lines_append_feed, lines_of_plain plain, lines_of_plain otherPlain] at cut
  obtain rfl := (List.cons.inj cut).1
  exact ⟨rfl, (List.cons.inj (List.append_cancel_left same)).2⟩

/-- The lines of a text are its first line and, past the line feed, the lines below. -/
theorem lineAt_above_iff {first rest line : List Char} {place : Nat} (plain : '\n' ∉ first) :
    LineAt (first ++ '\n' :: rest) place line ↔ (place = 0 ∧ line = first) ∨
      ∃ below, place = first.length + 1 + below ∧ LineAt rest below line := by
  constructor
  · rintro ⟨before, after, spelled, rfl, rfl | ⟨above, rfl⟩, whole, led⟩
    · left
      rcases led with rfl | ⟨below, rfl⟩
      · -- The line would hold the line feed.
        rw [List.nil_append, List.append_nil] at spelled
        exact absurd (spelled ▸ List.mem_append_right _ List.mem_cons_self) whole
      · exact ⟨rfl, (feed_inj plain whole spelled).1.symm⟩
    · right
      rw [List.append_assoc, List.singleton_append] at spelled
      by_cases later : '\n' ∈ above
      · obtain ⟨top, more, rfl, topPlain⟩ := List.eq_append_cons_of_mem later
        rw [List.append_assoc, List.cons_append] at spelled
        obtain ⟨rfl, rfl⟩ := feed_inj plain topPlain spelled
        refine ⟨(more ++ ['\n']).length, ?_, more ++ ['\n'], after, ?_, rfl, .inr ⟨more, rfl⟩, whole,
          led⟩
        · simp only [List.length_append, List.length_cons]
          omega
        · rw [List.append_assoc, List.singleton_append]
      · obtain ⟨rfl, rfl⟩ := feed_inj plain later spelled
        exact ⟨0, List.length_append, [], after, rfl, rfl, .inl rfl, whole, led⟩
  · rintro (⟨rfl, rfl⟩ | ⟨_, rfl, before, after, rfl, rfl, ended, whole, led⟩)
    · exact ⟨[], '\n' :: rest, rfl, rfl, .inl rfl, plain, .inr ⟨rest, rfl⟩⟩
    · refine ⟨first ++ '\n' :: before, after, ?_, ?_, ended.append first, whole, led⟩
      · rw [List.append_assoc, List.cons_append]
      · rw [List.length_append, List.length_cons]
        omega

/-- At most one line starts at a place. -/
theorem LineAt.unique {text line other : List Char} {place : Nat} (here : LineAt text place line)
    (there : LineAt text place other) : line = other := by
  induction text using line_induction generalizing place with
  | single only plain =>
    rw [((lineAt_iff_of_plain plain).mp here).2, ((lineAt_iff_of_plain plain).mp there).2]
  | above first rest plain ih =>
    rcases (lineAt_above_iff plain).mp here with ⟨rfl, rfl⟩ | ⟨below, rfl, inside⟩
    · rcases (lineAt_above_iff plain).mp there with ⟨_, rfl⟩ | ⟨below, past, _⟩
      · rfl
      · omega
    · rcases (lineAt_above_iff plain).mp there with ⟨past, _⟩ | ⟨later, past, otherInside⟩
      · omega
      · obtain rfl : below = later := by omega
        exact ih inside otherInside

end StoryBundle.Text

namespace StoryBundle.Section

open Text (FeedEnded FeedLed LineAt)

/-! ## Matches -/

/-- `MatchedAt key text place captured`: a line of the text starts at the place, and it consists of
spaces and tabs, the key, a colon and what is captured. -/
def MatchedAt (key text : List Char) (place : Nat) (captured : List Char) : Prop :=
  ∃ before indent after, text = before ++ (indent ++ (key ++ ':' :: (captured ++ after))) ∧
    before.length = place ∧ FeedEnded before ∧ (∀ c ∈ indent, Text.isIndent c = true) ∧
    '\n' ∉ captured ∧ FeedLed after

/-- A match with no other match in front of it. -/
structure Leftmost (key text : List Char) (place : Nat) (captured : List Char) : Prop where
  matched : MatchedAt key text place captured
  least : ∀ other found, MatchedAt key text other found → place ≤ other

theorem labelled?_indented {indent : List Char} (blank : ∀ c ∈ indent, Text.isIndent c = true)
    (key line : List Char) : labelled? key (indent ++ line) = labelled? key line := by
  rw [labelled?, labelled?, List.dropWhile_append_of_pos blank]

theorem labelled?_eq_some_iff {key line captured : List Char} (known : key ∈ keys) :
    labelled? key line = some captured ↔ ∃ indent, line = indent ++ (key ++ ':' :: captured) ∧
      ∀ c ∈ indent, Text.isIndent c = true := by
  constructor
  · intro labelled
    simp only [labelled?, Option.ite_none_right_eq_some, Option.some.injEq] at labelled
    obtain ⟨starts, rfl⟩ := labelled
    obtain ⟨rest, spelled⟩ := List.isPrefixOf_iff_prefix.mp starts
    refine ⟨line.takeWhile Text.isIndent, ?_, fun c => List.mem_takeWhile_imp⟩
    rw [← spelled, List.drop_left, ← List.singleton_append, ← List.append_assoc key, spelled,
      List.takeWhile_append_dropWhile]
  · rintro ⟨indent, rfl, blank⟩
    rw [labelled?_indented blank, labelled?_key_append known known, if_pos rfl]

/-- A match is a line with the key. -/
theorem matchedAt_iff {key text captured : List Char} {place : Nat} (known : key ∈ keys) :
    MatchedAt key text place captured ↔
      ∃ line, LineAt text place line ∧ labelled? key line = some captured := by
  simp only [labelled?_eq_some_iff known]
  constructor
  · rintro ⟨before, indent, after, rfl, rfl, ended, blank, plain, led⟩
    refine ⟨_, ⟨before, after, ?_, rfl, ended, ?_, led⟩, indent, rfl, blank⟩
    · simp
    · have indented : '\n' ∉ indent := fun inside => absurd (blank _ inside) (by decide)
      simp [indented, not_mem_key known, plain]
  · rintro ⟨_, ⟨before, after, rfl, rfl, ended, plain, led⟩, indent, rfl, blank⟩
    refine ⟨before, indent, after, ?_, rfl, ended, blank, ?_, led⟩
    · simp
    · simp only [List.mem_append, List.mem_cons, not_or] at plain
      exact plain.2.2.2

theorem matchedAt_line_iff {key line captured : List Char} {place : Nat} (known : key ∈ keys)
    (plain : '\n' ∉ line) :
    MatchedAt key line place captured ↔ place = 0 ∧ labelled? key line = some captured := by
  simp only [matchedAt_iff known, Text.lineAt_iff_of_plain plain, and_assoc, exists_and_left,
    exists_eq_left]

theorem matchedAt_above_iff {key first rest captured : List Char} {place : Nat}
    (known : key ∈ keys) (plain : '\n' ∉ first) :
    MatchedAt key (first ++ '\n' :: rest) place captured ↔
      (place = 0 ∧ labelled? key first = some captured) ∨
        ∃ below, place = first.length + 1 + below ∧ MatchedAt key rest below captured := by
  simp only [matchedAt_iff known, Text.lineAt_above_iff plain, or_and_right, exists_or]
  refine or_congr ?_ ?_
  · simp only [and_assoc, exists_and_left, exists_eq_left]
  · constructor
    · rintro ⟨line, ⟨below, past, inside⟩, labelled⟩
      exact ⟨below, past, line, inside, labelled⟩
    · rintro ⟨below, past, line, inside, labelled⟩
      exact ⟨line, ⟨below, past, inside⟩, labelled⟩

/-- A place has one capture. -/
theorem MatchedAt.unique {key text captured other : List Char} {place : Nat} (known : key ∈ keys)
    (here : MatchedAt key text place captured) (there : MatchedAt key text place other) :
    captured = other := by
  obtain ⟨line, starts, labelled⟩ := (matchedAt_iff known).mp here
  obtain ⟨same, startsToo, labelledToo⟩ := (matchedAt_iff known).mp there
  rw [starts.unique startsToo, labelledToo, Option.some.injEq] at labelled
  exact labelled.symm

theorem Leftmost.unique {key text captured other : List Char} {place otherPlace : Nat}
    (known : key ∈ keys) (here : Leftmost key text place captured)
    (there : Leftmost key text otherPlace other) : place = otherPlace ∧ captured = other := by
  obtain rfl : place = otherPlace :=
    Nat.le_antisymm (here.least _ _ there.matched) (there.least _ _ here.matched)
  exact ⟨rfl, here.matched.unique known there.matched⟩

/-! ## Captures -/

theorem capture?_line (key : List Char) {line : List Char} (plain : '\n' ∉ line) :
    capture? key line = labelled? key line := by
  rw [capture?, Text.lines_of_plain plain, List.findSome?_singleton]

theorem capture?_above (key : List Char) {first : List Char} (plain : '\n' ∉ first)
    (rest : List Char) :
    capture? key (first ++ '\n' :: rest) = (labelled? key first).or (capture? key rest) := by
  rw [capture?, Text.lines_append_feed, Text.lines_of_plain plain, List.singleton_append,
    List.findSome?_cons, capture?]
  cases labelled? key first <;> rfl

/-- What is captured line by line is captured at the leftmost match. -/
theorem leftmost_of_capture? {key text captured : List Char} (known : key ∈ keys)
    (found : capture? key text = some captured) : ∃ place, Leftmost key text place captured := by
  induction text using Text.line_induction with
  | single line plain =>
    rw [capture?_line key plain] at found
    exact ⟨0, (matchedAt_line_iff known plain).mpr ⟨rfl, found⟩, fun _ _ _ => Nat.zero_le _⟩
  | above first rest plain ih =>
    rw [capture?_above key plain] at found
    cases labelled : labelled? key first with
    | some own =>
      rw [labelled, Option.some_or] at found
      exact ⟨0, (matchedAt_above_iff known plain).mpr (.inl ⟨rfl, labelled.trans found⟩),
        fun _ _ _ => Nat.zero_le _⟩
    | none =>
      rw [labelled, Option.none_or] at found
      obtain ⟨below, leftmost⟩ := ih found
      refine ⟨first.length + 1 + below, (matchedAt_above_iff known plain).mpr
        (.inr ⟨below, rfl, leftmost.matched⟩), fun other capture hit => ?_⟩
      rcases (matchedAt_above_iff known plain).mp hit with ⟨_, own⟩ | ⟨later, rfl, inside⟩
      · rw [labelled] at own
        cases own
      · exact Nat.add_le_add_left (leftmost.least later capture inside) _

/-- Nothing is captured only if nothing matches. -/
theorem capture?_eq_none_iff {key text : List Char} (known : key ∈ keys) :
    capture? key text = none ↔ ∀ place captured, ¬ MatchedAt key text place captured := by
  constructor
  · intro missing place captured hit
    induction text using Text.line_induction generalizing place with
    | single line plain =>
      rw [capture?_line key plain] at missing
      obtain ⟨_, labelled⟩ := (matchedAt_line_iff known plain).mp hit
      rw [missing] at labelled
      cases labelled
    | above first rest plain ih =>
      rw [capture?_above key plain, Option.or_eq_none_iff] at missing
      rcases (matchedAt_above_iff known plain).mp hit with ⟨_, own⟩ | ⟨below, _, inside⟩
      · rw [missing.1] at own
        cases own
      · exact ih missing.2 below inside
  · intro free
    cases found : capture? key text with
    | none => rfl
    | some captured =>
      obtain ⟨place, leftmost⟩ := leftmost_of_capture? known found
      exact absurd leftmost.matched (free place captured)

/-- Reading a text line by line captures what its leftmost match captures. -/
theorem capture?_eq_some_iff {key text captured : List Char} (known : key ∈ keys) :
    capture? key text = some captured ↔ ∃ place, Leftmost key text place captured := by
  constructor
  · exact leftmost_of_capture? known
  · rintro ⟨place, leftmost⟩
    cases found : capture? key text with
    | none => exact absurd leftmost.matched ((capture?_eq_none_iff known).mp found place captured)
    | some own =>
      obtain ⟨_, first⟩ := leftmost_of_capture? known found
      exact congrArg some (first.unique known leftmost).2

/-- A line is for one key. -/
theorem MatchedAt.key_unique {key other text captured found : List Char} {place : Nat}
    (known : key ∈ keys) (otherKnown : other ∈ keys) (here : MatchedAt key text place captured)
    (there : MatchedAt other text place found) : other = key := by
  obtain ⟨line, starts, labelled⟩ := (matchedAt_iff known).mp here
  obtain ⟨same, startsToo, labelledToo⟩ := (matchedAt_iff otherKnown).mp there
  obtain ⟨indent, spelled, blank⟩ := (labelled?_eq_some_iff known).mp labelled
  rw [← starts.unique startsToo, spelled, labelled?_indented blank,
    labelled?_key_append otherKnown known, Option.ite_none_right_eq_some] at labelledToo
  exact labelledToo.1

/-! ## Values -/

theorem value_of_leftmost {content captured : List Char} {setting : Setting} {place : Nat}
    (leftmost : Leftmost setting.key.toList content place captured) :
    value content setting = Text.trim captured := by
  rw [value, (capture?_eq_some_iff (key_mem_keys setting)).mpr ⟨place, leftmost⟩]

theorem value_of_free {content : List Char} {setting : Setting}
    (free : ∀ place captured, ¬ MatchedAt setting.key.toList content place captured) :
    value content setting = [] := by
  rw [value, (capture?_eq_none_iff (key_mem_keys setting)).mpr free]

/-- There is a leftmost match unless there is none at all. -/
theorem leftmost_or_free {key : List Char} (known : key ∈ keys) (text : List Char) :
    (∃ place captured, Leftmost key text place captured) ∨
      ∀ place captured, ¬ MatchedAt key text place captured := by
  cases found : capture? key text with
  | none => exact .inr ((capture?_eq_none_iff known).mp found)
  | some captured =>
    obtain ⟨place, leftmost⟩ := leftmost_of_capture? known found
    exact .inl ⟨place, captured, leftmost⟩

theorem value_eq_nil_iff {content : List Char} {setting : Setting} : value content setting = [] ↔
    (∀ place captured, ¬ MatchedAt setting.key.toList content place captured) ∨
      ∃ place captured, Leftmost setting.key.toList content place captured ∧
        ∀ c ∈ captured, Text.isBlank c = true := by
  constructor
  · intro empty
    rcases leftmost_or_free (key_mem_keys setting) content with ⟨place, captured, leftmost⟩ | free
    · rw [value_of_leftmost leftmost] at empty
      exact .inr ⟨place, captured, leftmost, Text.trim_eq_nil_iff.mp empty⟩
    · exact .inl free
  · rintro (free | ⟨place, captured, leftmost, blank⟩)
    · exact value_of_free free
    · exact (value_of_leftmost leftmost).trans (Text.trim_eq_nil_iff.mpr blank)

/-- What can be written on the rest of a line so that it is read back as it is. -/
structure IsValue (value : List Char) : Prop where
  whole : '\n' ∉ value
  start : ∀ c ∈ value.head?, Text.isBlank c = false
  finish : ∀ c ∈ value.getLast?, Text.isBlank c = false

theorem isValue_value (content : List Char) (setting : Setting) :
    IsValue (value content setting) := by
  rcases leftmost_or_free (key_mem_keys setting) content with ⟨place, captured, leftmost⟩ | free
  · rw [value_of_leftmost leftmost]
    obtain ⟨_, _, _, _, _, _, _, plain, _⟩ := leftmost.matched
    exact ⟨fun inside => plain (Text.mem_of_mem_trim inside),
      fun _ => Text.isBlank_of_mem_head?_trim, fun _ => Text.isBlank_of_mem_getLast?_trim⟩
  · rw [value_of_free free]
    exact ⟨List.not_mem_nil, fun _ first => (Option.not_mem_none _ first).elim,
      fun _ last => (Option.not_mem_none _ last).elim⟩

/-- A setting has the trimmed capture of its leftmost match for a value, and it is not made exactly
if there is no match or the leftmost one captures only blanks. -/
theorem get_eq_leftmost (content : String) (setting : Setting) :
    ((∃ place captured, MatchedAt setting.key.toList content.toList place captured) →
      ∃ place captured, Leftmost setting.key.toList content.toList place captured) ∧
    (∀ place captured, Leftmost setting.key.toList content.toList place captured →
      (Settings.ofSection content).get setting = String.ofList (Text.trim captured)) ∧
    ((Settings.ofSection content).get setting = "" ↔
      (∀ place captured, ¬ MatchedAt setting.key.toList content.toList place captured) ∨
        ∃ place captured, Leftmost setting.key.toList content.toList place captured ∧
          ∀ c ∈ captured, Text.isBlank c = true) ∧
    IsValue ((Settings.ofSection content).get setting).toList ∧
    ∀ key ∈ keys, ∀ place captured found,
      MatchedAt setting.key.toList content.toList place captured →
        MatchedAt key content.toList place found → key = setting.key.toList := by
  have known := key_mem_keys setting
  have read : (Settings.ofSection content).get setting =
      String.ofList (value content.toList setting) := Settings.get_ofValues _ _
  rw [read]
  refine ⟨?present, ?leftmost, ?empty, ?value, ?apart⟩
  case present =>
    rintro ⟨place, captured, hit⟩
    exact (leftmost_or_free known content.toList).resolve_right fun free => free place captured hit
  case leftmost =>
    intro place captured leftmost
    exact congrArg String.ofList (value_of_leftmost leftmost)
  case empty =>
    rw [SettingsFile.ofList_eq_empty_iff, value_eq_nil_iff]
  case value =>
    rw [String.toList_ofList]
    exact isValue_value content.toList setting
  case apart =>
    intro key otherKnown place captured found here there
    exact here.key_unique known otherKnown there

/-- The first line with the key counts although it is blank, and a key counts only at the start of
a line, which no carriage return makes. -/
example : Settings.ofSection "id: 1\r title: a\n\ttitle:\u2003\r\ntitle: b\nwidth: title: 8 " =
    ⟨"", "title: 8", "", "", ""⟩ := by decide +kernel

end StoryBundle.Section
