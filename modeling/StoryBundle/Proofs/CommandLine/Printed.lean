import Mathlib.Data.List.Forall2
import StoryBundle.CommandLine.Outcome
import StoryBundle.Proofs.Path
import StoryBundle.Text.Json

/-!
# What is printed

How a text is set in a column (`AtLeft`, `AtRight`), how the report of a failure is set line by line
(`Reported`), and which paths can stand in a JSON document (`Path.json_eq_ok_iff`,
`Path.json_eq_error_iff`).
-/

namespace StoryBundle

/-! ## Columns -/

namespace Text

/-- A text with nothing but spaces behind it, as many as it takes to fill a column. -/
def AtLeft (width : Nat) (text column : String) : Prop :=
  ∃ gap, column = text ++ String.ofList (List.replicate gap ' ') ∧
    column.length = max width text.length

/-- A text with nothing but spaces in front of it, as many as it takes to fill a column. -/
def AtRight (width : Nat) (text column : String) : Prop :=
  ∃ gap, column = String.ofList (List.replicate gap ' ') ++ text ∧
    column.length = max width text.length

variable {width : Nat} {text column : String}

theorem atLeft_iff : AtLeft width text column ↔ alignLeft width text = column := by
  constructor
  · rintro ⟨gap, rfl, filled⟩
    rw [String.length_append, String.length_ofList, List.length_replicate] at filled
    have least : gap = width - text.length := by omega
    rw [alignLeft, least]
  · rintro rfl
    refine ⟨_, rfl, ?_⟩
    rw [alignLeft, String.length_append, String.length_ofList, List.length_replicate]
    omega

theorem atRight_iff : AtRight width text column ↔ alignRight width text = column := by
  constructor
  · rintro ⟨gap, rfl, filled⟩
    rw [String.length_append, String.length_ofList, List.length_replicate] at filled
    have least : gap = width - text.length := by omega
    rw [alignRight, least]
  · rintro rfl
    refine ⟨_, rfl, ?_⟩
    rw [alignRight, String.length_append, String.length_ofList, List.length_replicate]
    omega

theorem flatMap_lines (filling text : List Char) :
    filling ++ (text.flatMap fun c => if c = '\n' then '\n' :: filling else [c]) ++ ['\n'] =
      (lines text).flatMap fun line => filling ++ line ++ ['\n'] := by
  induction text with
  | nil => simp [lines, pieces]
  | cons c rest ih =>
    unfold lines at ih ⊢
    rw [pieces_cons]
    cases split : pieces (· == '\n') rest with
    | nil => exact absurd split (pieces_ne_nil _ rest)
    | cons line more =>
      rw [split, List.flatMap_cons, List.append_assoc, List.append_assoc, List.append_assoc,
        List.append_cancel_left_eq] at ih
      by_cases feed : c = '\n'
      · simp [addToPieces, feed, ih]
      · simp [addToPieces, feed, ih]

/-- The filling stands in front of each line when it stands in front of the first one. -/
theorem hangingIndent_eq_lines (filling text : String) :
    filling ++ (hangingIndent filling text ++ "\n") =
      String.join ((lines text.toList).map fun line => filling ++ String.ofList line ++ "\n") := by
  rw [← String.toList_inj]
  simp only [hangingIndent, String.toList_append, String.toList_ofList, String.toList_join,
    List.flatMap_map, ← List.append_assoc]
  exact flatMap_lines filling.toList text.toList

end Text

/-! ## Reports of failures -/

namespace CommandLine

/-- The text that reports a failure: the message, and below it the lines of the cause, if there is one,
each of them indented. -/
def Failure.Reported (failure : Failure) (text : String) : Prop :=
  text = "Error: " ++ failure.message ++ "\n" ++ failure.cause?.elim "" fun cause =>
    "\nCaused by:\n" ++ String.join ((Text.lines cause.toList).map fun line =>
      "    " ++ String.ofList line ++ "\n")

theorem Failure.reported_iff {failure : Failure} {text : String} :
    failure.Reported text ↔ failure.report = text := by
  have told : failure.report = "Error: " ++ failure.message ++ "\n" ++
      failure.cause?.elim "" fun cause => "\nCaused by:\n" ++
        String.join ((Text.lines cause.toList).map fun line =>
          "    " ++ String.ofList line ++ "\n") := by
    obtain ⟨message, _ | cause⟩ := failure
    · rfl
    · rw [Option.elim_some, ← Text.hangingIndent_eq_lines]
      simp only [report, String.append_assoc]
      rfl
  rw [Reported, told, eq_comm]

end CommandLine

/-! ## Items one by one -/

/-- Items that a function relates to others are its values. -/
theorem forall₂_eq_map_iff {α β : Type} {f : α → β} {items : List α} {values : List β} :
    List.Forall₂ (fun item value => f item = value) items values ↔ items.map f = values := by
  rw [← List.forall₂_eq_eq_eq, List.forall₂_map_left_iff]

/-- Each of the items on one side is related to one on the other. -/
theorem exists_of_forall₂ {α β : Type} {related : α → β → Prop} {items : List α} {values : List β}
    (each : List.Forall₂ related items values) {item : α} (member : item ∈ items) :
    ∃ value ∈ values, related item value := by
  induction each with
  | nil => cases member
  | @cons first value rest more given _ ih =>
    rcases List.mem_cons.mp member with rfl | later
    · exact ⟨value, List.mem_cons_self, given⟩
    · obtain ⟨other, listed, known⟩ := ih later
      exact ⟨other, List.mem_cons_of_mem _ listed, known⟩

/-! ## Paths in documents -/

namespace Path

variable {path : Path}

theorem json_eq_ok_iff {document : Json} :
    path.json = .ok document ↔ ∃ text : String, text = path ∧ document = .text text := by
  rw [json]
  cases read : path.text? with
  | none =>
    have damaged := text?_eq_none_iff.mp read
    constructor
    · rintro ⟨⟩
    · rintro ⟨text, spelled, _⟩
      exact absurd ⟨text, spelled⟩ damaged
  | some text =>
    constructor
    · rintro ⟨⟩
      exact ⟨text, text?_eq_some_iff.mp read, rfl⟩
    · rintro ⟨other, spelled, rfl⟩
      rw [text?_eq_some_iff.mpr spelled, Option.some.injEq] at read
      rw [read]

theorem json_eq_error_iff {cause : String} :
    path.json = .error cause ↔
      ¬ path.IsText ∧ cause = "path contains invalid UTF-8 characters" := by
  rw [json, ← text?_eq_none_iff]
  cases path.text? with
  | none => rw [Except.error.injEq, eq_self, true_and, eq_comm]
  | some text => simp only [reduceCtorEq, false_and]

end Path
end StoryBundle
