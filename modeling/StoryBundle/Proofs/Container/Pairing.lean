import StoryBundle.Proofs.Container.Decoding
import StoryBundle.Proofs.Container.Extent
import StoryBundle.Proofs.Container.Identity
import StoryBundle.Proofs.Text.Digits

/-!
# Decoding a container with a story

A story adds one stage to decoding, between the index and the release number, and that stage gives
nothing but a verdict (`decode_eq_check_bind`). So a story can get a container refused, but it never
changes what is decoded. The stage compares three fields, which both sides hold as bytes at fixed
places, and it names each field in which they differ (`map_row_mismatches`).
-/

namespace StoryBundle

/-! ## Fields -/

/-- The field with what the container and the story say of it. -/
def Mismatch.row (mismatch : Mismatch) : String × String × String :=
  (mismatch.field, mismatch.containerText, mismatch.storyText)

namespace Identity

/-- A field that an identity and a header have in common. -/
structure Field where
  name : String
  /-- Where it stands in the payload of an identity. -/
  inIdentity : Nat
  /-- Where it stands in a story. -/
  inHeader : Nat
  size : Nat
  /-- How a message shows its bytes. -/
  text : Bytes → String

namespace Field

/-- A number in base ten. -/
def decimal (bytes : Bytes) : String := toString (Bytes.bigEndian bytes)

/-- Four digits in base sixteen behind a prefix. -/
def hexadecimal (bytes : Bytes) : String :=
  "0x" ++ String.ofList (Text.hexPlaces 4 (Bytes.bigEndian bytes))

def release : Field := ⟨"release", 0, 0x02, 2, decimal⟩
def serial : Field := ⟨"serial", 2, 0x12, 6, Text.latin1⟩
def checksum : Field := ⟨"checksum", 8, 0x1C, 2, hexadecimal⟩

/-- The order in which fields are compared. -/
def all : List Field := [release, serial, checksum]

/-- The bytes of a field in the identity that starts at `at_`. -/
def stated (data : Bytes) (at_ : Nat) (field : Field) : Bytes :=
  (data.drop (at_ + chunkHeaderSize + field.inIdentity)).take field.size

/-- The bytes of a field in the header of a story. -/
def own (story : Bytes) (field : Field) : Bytes := (story.drop field.inHeader).take field.size

/-- The fields in which the identity at `at_` and the header of a story differ. -/
def differing (data : Bytes) (at_ : Nat) (story : Bytes) : List Field :=
  all.filter fun field => field.stated data at_ ≠ field.own story

/-- A field with what either side says of it. -/
def row (data : Bytes) (at_ : Nat) (story : Bytes) (field : Field) : String × String × String :=
  (field.name, field.text (field.stated data at_), field.text (field.own story))

end Field

theorem releaseText_word16 {word : Bytes} (width : word.length = 2) :
    toString (Bytes.word16 word).toNat = Field.decimal word := by
  rw [Bytes.toNat_word16 width, Field.decimal]

theorem checksumText_word16 {word : Bytes} (width : word.length = 2) :
    Mismatch.checksumText (Bytes.word16 word) = Field.hexadecimal word := by
  have bound := Bytes.bigEndian_lt word
  rw [width] at bound
  have small : Bytes.bigEndian word < 16 ^ 4 := bound
  rw [Mismatch.checksumText, Text.lowerHex, Bytes.toNat_word16 width,
    Text.hexPadded_eq_hexPlaces (by decide) small, Field.hexadecimal]

theorem word16_eq_iff {left right : Bytes} (leftWidth : left.length = 2)
    (rightWidth : right.length = 2) : Bytes.word16 left = Bytes.word16 right ↔ left = right :=
  ⟨Bytes.word16_injective leftWidth rightWidth, congrArg Bytes.word16⟩

namespace Field

variable {data story : Bytes} {at_ : Nat}

/-- What is said of a field: nothing if both sides have the same bytes. -/
def difference (data : Bytes) (at_ : Nat) (story : Bytes) (field : Field) :
    List (String × String × String) :=
  if field.stated data at_ = field.own story then [] else [field.row data at_ story]

theorem map_row_differing : (differing data at_ story).map (row data at_ story) =
    release.difference data at_ story ++ serial.difference data at_ story ++
      checksum.difference data at_ story := by
  have single (field : Field) :
      ([field].filter fun field => field.stated data at_ ≠ field.own story).map
        (row data at_ story) = field.difference data at_ story := by
    by_cases same : field.stated data at_ = field.own story <;> simp [difference, same]
  have apart : all = [release] ++ [serial] ++ [checksum] := rfl
  rw [differing, apart, List.filter_append, List.filter_append, List.map_append, List.map_append,
    single, single, single]

/-- A mismatch is reported of a field whose bytes differ if its values differ as the bytes do. -/
theorem map_row_ite {field : Field} {agree : Prop} [Decidable agree] {mismatch : Mismatch}
    (same : agree ↔ field.stated data at_ = field.own story)
    (shown : mismatch.row = field.row data at_ story) :
    (if agree then [] else [mismatch]).map Mismatch.row = field.difference data at_ story := by
  rw [difference, ← shown]
  by_cases held : agree
  · rw [if_pos held, if_pos (same.mp held), List.map_nil]
  · rw [if_neg held, if_neg (same.not.mp held), List.map_singleton]

/-- The fields of an identity that was read are those at their places. -/
theorem stated_eq {fields : Bytes} (field : Field)
    (sliced : data.slice? (at_ + chunkHeaderSize) 10 = some fields)
    (inside : field.inIdentity + field.size ≤ 10) :
    (fields.drop field.inIdentity).take field.size = field.stated data at_ ∧
      (field.stated data at_).length = field.size := by
  have width := Bytes.length_of_slice? sliced
  have present : data.slice? (at_ + chunkHeaderSize + field.inIdentity) field.size =
      some ((fields.drop field.inIdentity).take field.size) :=
    (Bytes.slice?_of_slice? sliced inside).trans
      (Bytes.slice?_eq_some_iff.mpr ⟨by omega, rfl⟩)
  have same : field.stated data at_ = (fields.drop field.inIdentity).take field.size :=
    (Bytes.slice?_eq_some_iff.mp present).2
  exact ⟨same.symm, same ▸ Bytes.length_of_slice? present⟩

theorem length_own {field : Field} (enough : field.inHeader + field.size ≤ story.length) :
    (field.own story).length = field.size := by
  rw [own, List.length_take, List.length_drop]
  omega

end Field

/-- The mismatches are the fields whose bytes differ, with what the bytes say. -/
theorem map_row_mismatches {data story : Bytes} {at_ : Nat} {identity : Identity} {header : Header}
    (present : read data at_ = .ok identity) (started : Header.read story = .ok header) :
    (identity.mismatches header).map Mismatch.row =
      (Field.differing data at_ story).map (Field.row data at_ story) := by
  obtain ⟨fields, sliced, rfl⟩ := read_eq_ok_iff.mp present
  obtain ⟨enough, rfl⟩ := Header.read_eq_ok_iff.mp started
  rw [Header.size] at enough
  obtain ⟨release, releaseWidth⟩ := Field.stated_eq .release sliced (by decide)
  obtain ⟨serial, _⟩ := Field.stated_eq .serial sliced (by decide)
  obtain ⟨checksum, checksumWidth⟩ := Field.stated_eq .checksum sliced (by decide)
  have ownRelease : (Field.release.own story).length = 2 :=
    Field.length_own (by change 2 + 2 ≤ _; omega)
  have ownChecksum : (Field.checksum.own story).length = 2 := Field.length_own enough
  -- The checksum is read as all that is left of the payload after the other two fields.
  have width := Bytes.length_of_slice? sliced
  have rest : (fields.drop 8).take 2 = fields.drop 8 :=
    List.take_of_length_le (by rw [List.length_drop]; omega)
  change fields.take 2 = _ at release
  change (fields.drop 2).take 6 = _ at serial
  change (fields.drop 8).take 2 = _ at checksum
  rw [rest] at checksum
  simp only [mismatches, List.map_append, Field.map_row_differing, Header.ofFront]
  rw [release, serial, checksum]
  refine congrArg₂ _ (congrArg₂ _ (Field.map_row_ite ?_ ?_) (Field.map_row_ite ?_ ?_))
    (Field.map_row_ite ?_ ?_)
  · exact word16_eq_iff releaseWidth ownRelease
  · exact congrArg₂ (fun stated own => ("release", stated, own)) (releaseText_word16 releaseWidth)
      (releaseText_word16 ownRelease)
  · exact Iff.rfl
  · rfl
  · exact word16_eq_iff checksumWidth ownChecksum
  · exact congrArg₂ (fun stated own => ("checksum", stated, own))
      (checksumText_word16 checksumWidth) (checksumText_word16 ownChecksum)

/-- A payload and a header that are both there have the same fields, or the fields in which they
differ are reported. -/
theorem compare_of_long {data story : Bytes} {at_ : Nat}
    (stated : at_ + chunkHeaderSize + 10 ≤ data.length) (started : Header.size ≤ story.length) :
    (Field.differing data at_ story = [] → compare data at_ story = .ok ()) ∧
      (Field.differing data at_ story ≠ [] → ∃ mismatches,
        compare data at_ story = .error (.identityMismatch mismatches) ∧
          mismatches.map Mismatch.row =
            (Field.differing data at_ story).map (Field.row data at_ story)) := by
  have present := read_eq_ok_iff.mpr ⟨_, Bytes.slice?_eq_some_iff.mpr ⟨stated, rfl⟩, rfl⟩
  have opened := Header.read_eq_ok_iff.mpr ⟨started, rfl⟩
  have rows := map_row_mismatches present opened
  constructor
  · intro same
    rw [same, List.map_nil, List.map_eq_nil_iff] at rows
    exact compare_eq_ok_iff.mpr ⟨_, _, present, opened, mismatches_eq_nil_iff.mp rows⟩
  · intro differ
    refine ⟨_, compare_eq_error_iff.mpr (.inr ⟨_, present, .inr ⟨_, opened, ?_, rfl⟩⟩), rows⟩
    intro none
    rw [none, List.map_nil, eq_comm, List.map_eq_nil_iff] at rows
    exact differ rows

end Identity

namespace Container

variable {data story : Bytes}

/-- The container with a note of the story that it was checked against. -/
def pairedWith (story : Bytes) (container : Container) : Container :=
  { container with reference := some story }

theorem keptReference_of_ne_nil (given : story ≠ []) : keptReference (some story) = some story :=
  keptReference_eq_some_iff.mpr ⟨rfl, given⟩

theorem decode_nil (data : Bytes) : decode data (some []) = decode data none := rfl

/-- Without an index there is nothing that a story could change. -/
theorem decode_of_no_index {reference : Option Bytes}
    (absent : locate? data Tag.resourceIndex = none) :
    (decode data reference).outcome = .error .missingIndex :=
  decode_eq_error_iff.mpr (.inl ⟨absent, rfl⟩)

/-- An index that cannot be read is reported before the story is looked at. -/
theorem decode_of_index_error {reference : Option Bytes} {at_ : Nat} {cause : DecodeError}
    (indexed : locate? data Tag.resourceIndex = some at_)
    (failed : (Index.read data at_).outcome = .error cause) :
    (decode data reference).outcome = .error cause :=
  decode_eq_error_iff.mpr (.inr ⟨at_, indexed, .inl failed⟩)

/-- Once the index is read, the check of the story comes first and the rest is as without it. -/
theorem decode_eq_check_bind {at_ : Nat} {index : Index} (given : story ≠ [])
    (indexed : locate? data Tag.resourceIndex = some at_)
    (listed : (Index.read data at_).outcome = .ok index) :
    (decode data (some story)).outcome =
      (Identity.check data story).outcome >>= fun _ =>
        (decode data none).outcome.map (pairedWith story) := by
  have kept : (some story).filter (fun bytes => !bytes.isEmpty) = some story :=
    keptReference_of_ne_nil given
  have alone : (none : Option Bytes).filter (fun bytes => !bytes.isEmpty) = none := rfl
  simp only [decode, Logged.outcome_bind, Logged.outcome_note, Logged.outcome_pure, outcome_search,
    Except.ok_bind_eq, indexed, listed, kept, alone, checkReference]
  cases (Identity.check data story).outcome with
  | error cause => rfl
  | ok verdict =>
    simp only [Except.ok_bind_eq]
    cases (readRelease data).outcome <;> rfl

/-- A story that the check lets pass is recorded and changes nothing else. -/
theorem decode_of_checked {at_ : Nat} {index : Index} (given : story ≠ [])
    (indexed : locate? data Tag.resourceIndex = some at_)
    (listed : (Index.read data at_).outcome = .ok index)
    (passed : (Identity.check data story).outcome = .ok ()) :
    (decode data (some story)).outcome = (decode data none).outcome.map (pairedWith story) := by
  rw [decode_eq_check_bind given indexed listed, passed, Except.ok_bind_eq]

/-- A story that fails the check is the end of decoding. -/
theorem decode_of_refused {at_ : Nat} {index : Index} {cause : DecodeError} (given : story ≠ [])
    (indexed : locate? data Tag.resourceIndex = some at_)
    (listed : (Index.read data at_).outcome = .ok index)
    (refused : (Identity.check data story).outcome = .error cause) :
    (decode data (some story)).outcome = .error cause := by
  rw [decode_eq_check_bind given indexed listed, refused, Except.error_bind_eq]

/-- What comes of decoding with a story when there is an identity at `place`. -/
structure Judged (data story : Bytes) (place : Nat) : Prop where
  /-- The file ends within the fields of the identity. -/
  cut : data.length < place + 18 →
    (decode data (some story)).outcome =
      .error (.truncated .identityFields (place + 8) 10 data.length)
  /-- The story ends within its header. -/
  short : place + 18 ≤ data.length → story.length < 0x1E →
    Header.read story = .error (Header.shortfall story) ∧
      (decode data (some story)).outcome = .error (Header.shortfall story)
  /-- Each field that differs is reported with both of its values, and no other is. -/
  differing : place + 18 ≤ data.length → 0x1E ≤ story.length →
    Identity.Field.differing data place story ≠ [] → ∃ mismatches,
      (decode data (some story)).outcome = .error (.identityMismatch mismatches) ∧
        mismatches.map Mismatch.row =
          (Identity.Field.differing data place story).map (Identity.Field.row data place story)
  same : place + 18 ≤ data.length → 0x1E ≤ story.length →
    Identity.Field.differing data place story = [] →
      (decode data (some story)).outcome = (decode data none).outcome.map (pairedWith story)

theorem judged_of_located {at_ place : Nat} {index : Index} (given : story ≠ [])
    (indexed : locate? data Tag.resourceIndex = some at_)
    (listed : (Index.read data at_).outcome = .ok index)
    (located : locate? data Tag.storyIdentity = some place) : Judged data story place := by
  have refused {cause : DecodeError} (failed : Identity.compare data place story = .error cause) :
      (decode data (some story)).outcome = .error cause :=
    decode_of_refused given indexed listed
      (Identity.check_eq_error_iff.mpr ⟨place, located, failed⟩)
  constructor
  case cut =>
    intro cut
    exact refused (Identity.compare_eq_error_iff.mpr (.inl ⟨cut, rfl⟩))
  case short =>
    intro stated short
    have unread := Header.read_of_short short
    have present := Identity.read_eq_ok_iff.mpr
      ⟨_, Bytes.slice?_eq_some_iff.mpr ⟨stated, rfl⟩, rfl⟩
    exact ⟨unread, refused (Identity.compare_eq_error_iff.mpr (.inr ⟨_, present, .inl unread⟩))⟩
  case differing =>
    intro stated started differ
    obtain ⟨mismatches, failed, rows⟩ := (Identity.compare_of_long stated started).2 differ
    exact ⟨mismatches, refused failed, rows⟩
  case same =>
    intro stated started same
    refine decode_of_checked given indexed listed (Identity.check_eq_ok_iff.mpr ?_)
    intro other found
    rw [located, Option.some.injEq] at found
    subst found
    exact (Identity.compare_of_long stated started).1 same

/-- A container that decodes with a reference decodes without it, to the same but for the record of
the reference. -/
theorem decode_alone {reference : Option Bytes} {container : Container}
    (decoded : (decode data reference).outcome = .ok container) :
    (decode data none).outcome = .ok { container with reference := none } := by
  obtain ⟨at_, indexed, listed, _, released, same, _⟩ := decode_eq_ok_iff.mp decoded
  exact decode_eq_ok_iff.mpr ⟨at_, indexed, listed, rfl, released, same, rfl⟩

/-- An empty story counts as none. Any other one is judged by the identity once the index is read:
it is recorded if it passes, and it gets the container refused if it fails. Whatever decodes with a
story decodes without it to the same index, release and data. -/
theorem decode_with_reference (data story : Bytes) :
    decode data (some []) = decode data none ∧
    (story ≠ [] →
      (locate? data Tag.resourceIndex = none →
        (decode data (some story)).outcome = .error .missingIndex ∧
          (decode data none).outcome = .error .missingIndex) ∧
      ∀ at_, locate? data Tag.resourceIndex = some at_ →
        (∀ cause, (Index.read data at_).outcome = .error cause →
          (decode data (some story)).outcome = .error cause ∧
            (decode data none).outcome = .error cause) ∧
        ∀ index, (Index.read data at_).outcome = .ok index →
          (locate? data Tag.storyIdentity = none →
            (decode data (some story)).outcome =
              (decode data none).outcome.map (pairedWith story)) ∧
          ∀ place, locate? data Tag.storyIdentity = some place → Judged data story place) ∧
    ∀ reference container, (decode data reference).outcome = .ok container →
      ∃ alone, (decode data none).outcome = .ok alone ∧ container.index = alone.index ∧
        container.release = alone.release ∧ container.data = alone.data := by
  refine ⟨decode_nil data, fun given => ⟨?unindexed, fun at_ indexed => ⟨?unlisted, ?listed⟩⟩, ?alone⟩
  case unindexed =>
    intro absent
    exact ⟨decode_of_no_index absent, decode_of_no_index absent⟩
  case unlisted =>
    intro cause failed
    exact ⟨decode_of_index_error indexed failed, decode_of_index_error indexed failed⟩
  case listed =>
    intro index listed
    constructor
    · intro absent
      refine decode_of_checked given indexed listed (Identity.check_eq_ok_iff.mpr ?_)
      intro place located
      rw [absent] at located
      cases located
    · intro place located
      exact judged_of_located given indexed listed located
  case alone =>
    intro reference container decoded
    exact ⟨_, decode_alone decoded, rfl, rfl, rfl⟩

/-- A container without resources that states release 9, serial 971010 and a checksum. -/
def stating : Bytes :=
  fileOf [⟨Tag.resourceIndex, [0, 0, 0, 0]⟩,
    ⟨Tag.storyIdentity, [0, 9, 0x39, 0x37, 0x31, 0x30, 0x31, 0x30, 0x0A, 0xB1]⟩]

/-- A story of release 3 with the same serial and another checksum. -/
def laterStory : Bytes :=
  [3, 0, 0, 3] ++ List.replicate 14 0 ++ [0x39, 0x37, 0x31, 0x30, 0x31, 0x30] ++
    List.replicate 4 0 ++ [0x12, 0x34]

theorem decode_with_reference_sample : ∃ mismatches,
    (decode stating (some laterStory)).outcome = .error (.identityMismatch mismatches) ∧
      mismatches.map Mismatch.row =
        [("release", "9", "3"), ("checksum", "0x0ab1", "0x1234")] := by
  obtain ⟨_, judged, _⟩ := decode_with_reference stating laterStory
  have listed : (Index.read stating 12).outcome = .ok [] := by decide +kernel
  obtain ⟨_, reached⟩ := (judged (by decide)).2 12 (by decide +kernel)
  obtain ⟨_, located⟩ := reached [] listed
  have judgement := located 24 (by decide +kernel)
  obtain ⟨mismatches, refused, rows⟩ :=
    judgement.differing (by decide +kernel) (by decide +kernel) (by decide +kernel)
  exact ⟨mismatches, refused, rows.trans (by decide +kernel)⟩

end Container

end StoryBundle
