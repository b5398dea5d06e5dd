/-!
# Cutting text at separators

A text is cut at each character of a class, and a byte string at each byte of one. There is always
at least one piece, and no piece holds a separator (`not_mem_pieces`). Lines joined again by line
feeds give the text back (`joinLines_lines`).
-/

namespace StoryBundle.Text

section

variable {α : Type}

/-- A separator starts an empty piece, anything else joins the first one. -/
def addToPieces (isSeparator : α → Bool) (c : α) : List (List α) → List (List α)
  | [] => [[c]]
  | piece :: rest => if isSeparator c then [] :: piece :: rest else (c :: piece) :: rest

/-- The pieces of a text between the characters of a class. -/
def pieces (isSeparator : α → Bool) (text : List α) : List (List α) :=
  text.foldr (addToPieces isSeparator) [[]]

end

/-- The lines of a text, cut at line feeds alone. -/
def lines (text : List Char) : List (List Char) := pieces (· == '\n') text

/-- Lines joined by one line feed between neighbours. -/
def joinLines (all : List (List Char)) : List Char := ['\n'].intercalate all

/-- One text occurs as a run of characters inside another. -/
def occursIn (part : List Char) : List Char → Bool
  | [] => part.isEmpty
  | c :: rest => part.isPrefixOf (c :: rest) || occursIn part rest

section

variable {α : Type}

theorem pieces_cons (isSeparator : α → Bool) (c : α) (text : List α) :
    pieces isSeparator (c :: text) = addToPieces isSeparator c (pieces isSeparator text) := rfl

theorem pieces_ne_nil (isSeparator : α → Bool) (text : List α) :
    pieces isSeparator text ≠ [] := by
  cases text with
  | nil => simp [pieces]
  | cons c rest =>
    simp only [pieces, List.foldr_cons]
    unfold addToPieces
    split
    · simp
    · split <;> simp

/-- Separators are cut out and stay in no piece. -/
theorem not_mem_pieces {isSeparator : α → Bool} {text piece : List α} {c : α}
    (cut : piece ∈ pieces isSeparator text) (inside : c ∈ piece) : isSeparator c = false := by
  induction text generalizing piece with
  | nil =>
    simp only [pieces, List.foldr_nil, List.mem_singleton] at cut
    simp [cut] at inside
  | cons d rest ih =>
    rw [pieces_cons] at cut
    cases split : pieces isSeparator rest with
    | nil => exact absurd split (pieces_ne_nil isSeparator rest)
    | cons first more =>
      rw [split] at cut ih
      by_cases separates : isSeparator d
      · simp only [addToPieces, separates, if_true, List.mem_cons] at cut
        rcases cut with rfl | cut
        · simp at inside
        · exact ih (List.mem_cons.mpr cut) inside
      · have joined : addToPieces isSeparator d (first :: more) = (d :: first) :: more := by
          simp [addToPieces, separates]
        rw [joined] at cut
        rcases List.mem_cons.mp cut with rfl | cut
        · rcases List.mem_cons.mp inside with rfl | inside
          · simpa using separates
          · exact ih List.mem_cons_self inside
        · exact ih (List.mem_cons_of_mem _ cut) inside

end

/-- A text is its lines joined again. -/
theorem joinLines_lines (text : List Char) : joinLines (lines text) = text := by
  induction text with
  | nil => rfl
  | cons c rest ih =>
    unfold lines at ih ⊢
    rw [pieces_cons]
    cases split : pieces (· == '\n') rest with
    | nil => exact absurd split (pieces_ne_nil _ rest)
    | cons piece more =>
      rw [split] at ih
      by_cases feed : c = '\n'
      · subst feed
        simpa [addToPieces, joinLines, List.intercalate] using ih
      · have kept : addToPieces (· == '\n') c (piece :: more) = (c :: piece) :: more := by
          simp [addToPieces, feed]
        rw [kept]
        cases more with
        | nil => simpa [joinLines, List.intercalate] using ih
        | cons next others => simpa [joinLines, List.intercalate] using ih

end StoryBundle.Text
