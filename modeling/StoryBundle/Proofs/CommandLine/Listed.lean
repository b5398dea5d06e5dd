import StoryBundle.CommandLine.Inspect
import StoryBundle.Proofs.CommandLine.Printed
import StoryBundle.Proofs.Container.Listing
import StoryBundle.Proofs.Except

/-!
# Listings of containers

A container can be listed if its file can be read and decoded (`Listed`), and otherwise there is one
reason why not (`Fails`). `Prints` says how listings are printed, and only a path that is not text can
keep them from it (`output_eq_error_iff`).
-/

namespace StoryBundle.CommandLine.Inspect

variable {files : FileSystem}

/-! ## Listings and failures -/

/-- The file at a path holds a container, of which the listing shows the size, the release and the
index in order. -/
structure Listed (files : FileSystem) (path : Path) (listing : Listing) : Prop where
  path_eq : listing.path = path
  decoded : ∃ data container, files.read path = .ok data ∧
    (Container.decode data none).outcome = .ok container ∧ listing.size = data.length ∧
    listing.release = container.release ∧ listing.entries = container.index
  ordered : listing.entries.Ordered

/-- Why the file at a path cannot be listed. -/
inductive Fails (files : FileSystem) (path : Path) : Failure → Prop
  | unread {cause : AccessError} (refused : files.read path = .error cause) :
    Fails files path ⟨"reading " ++ path.shown, some cause.message⟩
  | undecoded {data : Bytes} {cause : DecodeError} (content : files.read path = .ok data)
      (refused : (Container.decode data none).outcome = .error cause) :
    Fails files path ⟨"decoding " ++ path.shown, some cause.message⟩

theorem read_eq_ok_iff {path : Path} {listing : Listing} :
    Listing.read files path = .ok listing ↔ Listed files path listing := by
  constructor
  · intro listed
    unfold Listing.read at listed
    split at listed
    · cases listed
    · rename_i data content
      split at listed
      · cases listed
      · rename_i container decoded
        cases listed
        obtain ⟨_, _, _, _, _, same, _⟩ := Container.decode_eq_ok_iff.mp decoded
        exact ⟨rfl, ⟨data, container, content, decoded, congrArg List.length same, rfl, rfl⟩,
          Container.ordered_of_decode decoded⟩
  · rintro ⟨rfl, ⟨data, container, content, decoded, size, release, entries⟩, _⟩
    obtain ⟨_, _, _, _, _, rfl, _⟩ := Container.decode_eq_ok_iff.mp decoded
    rw [Listing.read, content]
    simp only [decoded, Listing.of, ← size, ← release, ← entries]

theorem read_eq_error_iff {path : Path} {failure : Failure} :
    Listing.read files path = .error failure ↔ Fails files path failure := by
  constructor
  · intro failed
    unfold Listing.read at failed
    split at failed
    · rename_i cause refused
      cases failed
      exact .unread refused
    · rename_i data content
      split at failed
      · rename_i cause refused
        cases failed
        exact .undecoded content refused
      · cases failed
  · rintro (refused | ⟨content, refused⟩)
    · rw [Listing.read, refused]
      rfl
    · rw [Listing.read, content]
      simp only [refused]
      rfl

/-- The paths of listings are those that were inspected. -/
theorem exists_damaged_iff {inspected : List Path} {all : List Listing}
    (each : List.Forall₂ (Listed files) inspected all) :
    (∃ listing ∈ all, ¬ listing.path.IsText) ↔ ∃ path ∈ inspected, ¬ path.IsText := by
  have paths : all.map Listing.path = inspected := by
    rw [← forall₂_eq_map_iff]
    exact each.flip.imp fun listing path listed => listed.path_eq
  rw [← paths]
  simp only [List.mem_map, exists_exists_and_eq_and]

/-! ## How listings are printed -/

/-- The row of an entry: its usage to the left of four columns, its number to the right of six and its
start to the right of ten. -/
def Row (entry : Entry) (row : String) : Prop :=
  ∃ usage number start, Text.AtLeft 4 entry.usage.text usage ∧
    Text.AtRight 6 (toString entry.number.toNat) number ∧
    Text.AtRight 10 (toString entry.start.toNat) start ∧
    row = usage ++ " " ++ number ++ " " ++ start ++ "\n"

/-- A text tells a listing: a heading, and then a row for each entry in order. -/
def Tells (listing : Listing) (text : String) : Prop :=
  ∃ heading rows, text = heading ++ String.join rows ∧
    heading = toString listing.entries.length ++ " entries in " ++ listing.path.shown ++
      " (release " ++ toString listing.release.toNat ++ ", " ++ toString listing.size ++
      " bytes)\n" ∧
    List.Forall₂ Row listing.entries rows

/-- A JSON document tells a listing, of a path that is text. -/
def Describes (listing : Listing) (document : Json) : Prop :=
  ∃ path : String, path = listing.path ∧
    document = .object [("path", .text path), ("size", .number listing.size),
      ("release", .number listing.release.toNat),
      ("resources", .array (listing.entries.map fun entry =>
        .object [("usage", .text entry.usage.text), ("number", .number entry.number.toNat),
          ("start", .number entry.start.toNat)]))]

/-- How listings are printed: one after the other, or as the items of a JSON array. -/
inductive Prints (all : List Listing) : Bool → String → Prop
  | texts {texts : List String} (each : List.Forall₂ Tells all texts) :
    Prints all false (String.join texts)
  | items {documents : List Json} (each : List.Forall₂ Describes all documents) :
    Prints all true ((Json.array documents).render ++ "\n")

/-- Why listings have no JSON document. -/
def unwritten : Failure :=
  ⟨"serializing Blorb listing to JSON", some "path contains invalid UTF-8 characters"⟩

theorem row_iff {entry : Entry} {row : String} : Row entry row ↔ Listing.entryLine entry = row := by
  simp only [Row, Text.atLeft_iff, Text.atRight_iff, exists_and_left, exists_eq_left']
  have line : Listing.entryLine entry =
      Text.alignLeft 4 entry.usage.text ++ " " ++ Text.alignRight 6 (toString entry.number.toNat) ++
        " " ++ Text.alignRight 10 (toString entry.start.toNat) ++ "\n" := by
    simp only [Listing.entryLine, String.append_assoc]
    rfl
  rw [line, eq_comm]

theorem tells_iff {listing : Listing} {text : String} : Tells listing text ↔ listing.text = text := by
  have told : listing.text = toString listing.entries.length ++ " entries in " ++
      listing.path.shown ++ " (release " ++ toString listing.release.toNat ++ ", " ++
      toString listing.size ++ " bytes)\n" ++
      String.join (listing.entries.map Listing.entryLine) := by
    simp only [Listing.text, String.append_assoc]
    rfl
  have rows_iff (rows : List String) :
      List.Forall₂ Row listing.entries rows ↔ listing.entries.map Listing.entryLine = rows := by
    simp only [← forall₂_eq_map_iff, ← row_iff]
  constructor
  · rintro ⟨_, rows, rfl, rfl, each⟩
    rw [told, (rows_iff rows).mp each]
  · rintro rfl
    exact ⟨_, _, told, rfl, (rows_iff _).mpr rfl⟩

theorem describes_iff {listing : Listing} {document : Json} :
    Describes listing document ↔ listing.json = .ok document := by
  rw [Listing.json, Except.bind_eq_ok_iff]
  constructor
  · rintro ⟨text, spelled, rfl⟩
    exact ⟨_, Path.json_eq_ok_iff.mpr ⟨text, spelled, rfl⟩, rfl⟩
  · rintro ⟨_, written, ⟨⟩⟩
    obtain ⟨text, spelled, rfl⟩ := Path.json_eq_ok_iff.mp written
    exact ⟨text, spelled, rfl⟩

theorem json_eq_error_iff {listing : Listing} {cause : String} :
    listing.json = .error cause ↔
      ¬ listing.path.IsText ∧ cause = "path contains invalid UTF-8 characters" := by
  rw [Listing.json, Except.bind_eq_error_iff, Path.json_eq_error_iff]
  refine or_iff_left ?_
  rintro ⟨_, _, ⟨⟩⟩

/-- Listings have no JSON form as soon as one of them has none. -/
theorem mapM_json_eq_error_iff {all : List Listing} {cause : String} :
    all.mapM Listing.json = .error cause ↔
      (∃ listing ∈ all, ¬ listing.path.IsText) ∧ cause = "path contains invalid UTF-8 characters" := by
  have refused {cause : String} (failed : all.mapM Listing.json = .error cause) :
      (∃ listing ∈ all, ¬ listing.path.IsText) ∧ cause = "path contains invalid UTF-8 characters" := by
    obtain ⟨before, listing, after, parts, _, failed⟩ := Except.mapM_eq_error_iff.mp failed
    obtain ⟨damaged, same⟩ := json_eq_error_iff.mp failed
    exact ⟨⟨listing, parts ▸ List.mem_append_right _ List.mem_cons_self, damaged⟩, same⟩
  refine ⟨refused, ?_⟩
  rintro ⟨⟨listing, member, damaged⟩, rfl⟩
  cases ended : all.mapM Listing.json with
  | error other => rw [(refused ended).2]
  | ok documents =>
    obtain ⟨document, _, written⟩ := exists_of_forall₂ (Except.mapM_eq_ok_iff.mp ended) member
    obtain ⟨text, spelled, _⟩ := describes_iff.mpr written
    exact absurd ⟨text, spelled⟩ damaged

theorem document_eq_error_iff {all : List Listing} {failure : Failure} :
    document all = .error failure ↔
      (∃ listing ∈ all, ¬ listing.path.IsText) ∧ failure = unwritten := by
  rw [document, Except.map_eq_error_iff, Except.mapError_eq_error_iff]
  simp only [mapM_json_eq_error_iff, and_assoc, exists_and_left, exists_eq_left]
  rw [eq_comm (a := failure)]
  rfl

theorem document_eq_ok_iff {all : List Listing} {whole : Json} :
    document all = .ok whole ↔
      ∃ documents, List.Forall₂ Describes all documents ∧ .array documents = whole := by
  rw [document, Except.map_eq_ok_iff]
  simp only [Except.mapError_eq_ok_iff, Except.mapM_eq_ok_iff, ← describes_iff]

theorem output_eq_ok_iff {json : Bool} {all : List Listing} {printed : String} :
    output json all = .ok printed ↔ Prints all json printed := by
  cases json with
  | false =>
    have texts_iff (texts : List String) :
        List.Forall₂ Tells all texts ↔ all.map Listing.text = texts := by
      simp only [← forall₂_eq_map_iff, ← tells_iff]
    constructor
    · rintro ⟨⟩
      exact .texts ((texts_iff _).mpr rfl)
    · rintro ⟨each⟩
      rw [← (texts_iff _).mp each]
      rfl
  | true =>
    rw [output, if_pos rfl, Except.map_eq_ok_iff]
    constructor
    · rintro ⟨whole, written, rfl⟩
      obtain ⟨documents, each, rfl⟩ := document_eq_ok_iff.mp written
      exact .items each
    · rintro (_ | each)
      exact ⟨_, document_eq_ok_iff.mpr ⟨_, each, rfl⟩, rfl⟩

theorem output_eq_error_iff {json : Bool} {all : List Listing} {failure : Failure} :
    output json all = .error failure ↔
      json = true ∧ (∃ listing ∈ all, ¬ listing.path.IsText) ∧ failure = unwritten := by
  cases json with
  | false =>
    rw [output, if_neg Bool.false_ne_true]
    simp only [reduceCtorEq, Bool.false_eq_true, false_and]
  | true => rw [output, if_pos rfl, Except.map_eq_error_iff, document_eq_error_iff, eq_self, true_and]

end StoryBundle.CommandLine.Inspect
