import StoryBundle.Container.Basic
import StoryBundle.Proofs.Container.Index
import StoryBundle.Proofs.Trapping.Story

/-!
# Containers without traps

Each step of decoding a container relies on what an earlier one saw: the search goes on from a tag
that is there, so the next address is in reach (`length?_eq`, `nextStart?_eq`), and the fields of a
chunk are looked up from a place that a search gave or a slice was taken at. So nothing traps as long
as the file is no longer than half of the addresses.
-/

namespace StoryBundle.Trapping

/-! ## The search for a chunk -/

/-- The length in front of a payload, if the bytes reach that far. -/
def length? (data : Bytes) (position : Nat) : Trapping (Option Nat) :=
  match advance? position chunkHeaderSize with
  | none => pure none
  | some stop => do
    let start ← add position 4
    match between? data start stop with
    | none => pure none
    | some word => return some (← number 4 word)

/-- Looks for a tag from one chunk to the next. -/
def locateFrom (data : Bytes) (wanted : Tag) (position : Nat) : Trapping (Option Nat) :=
  match _ : window? data position 4 with
  | none => pure none
  | some mark =>
    if mark = wanted.toBytes then pure (some position)
    else do
      match ← length? data position with
      | none => pure none
      | some length =>
        match _ : nextStart? position length with
        | some next => locateFrom data wanted next
        | none => trap .deadBranch
termination_by data.length - position
decreasing_by
  have present := add_le_of_window? ‹window? data position 4 = some _›
  obtain ⟨forward, _⟩ := nextStart?_eq_some_iff.mp ‹nextStart? position _ = some _›
  rw [chunkHeaderSize] at forward
  omega

/-- Looks for a tag from the first chunk on. -/
def locate (data : Bytes) (wanted : Tag) : Trapping (Option Nat) :=
  locateFrom data wanted firstChunk

section

variable {data : Bytes} (small : data.length < 2 ^ 63)

include small

/-- A buffer of this size ends well before the addresses do. -/
theorem lt_addressLimit {address : Nat} (near : address ≤ data.length + 2 ^ 33) :
    address < addressLimit := by
  have limit : addressLimit = 2 ^ 64 := rfl
  omega

/-- After a tag there are addresses for a length, whether or not it is there. -/
theorem length?_eq {position : Nat} (tagged : position + 4 ≤ data.length) :
    length? data position = .ok ((data.slice? (position + 4) 4).map Bytes.bigEndian) := by
  have stop : advance? position chunkHeaderSize = some (position + 4 + 4) :=
    if_pos (lt_addressLimit small (by rw [chunkHeaderSize]; omega))
  have start : add position 4 = .ok (position + 4) := add_eq (lt_addressLimit small (by omega))
  simp only [length?, stop, start, Except.ok_bind_eq, between?_eq_slice?]
  cases present : data.slice? (position + 4) 4 with
  | none => rfl
  | some word =>
    simp only [number_eq (Bytes.length_of_slice? present)]
    rfl

/-- There always is an address for the next start. -/
theorem nextStart?_eq {position : Nat} {word : Bytes} (tagged : position + 4 ≤ data.length)
    (width : word.length = 4) :
    nextStart? position (Bytes.bigEndian word) = some
      (position + chunkHeaderSize + Bytes.bigEndian word + Bytes.bigEndian word % 2) := by
  have bound := Bytes.bigEndian_lt_of_length_eq_four width
  refine nextStart?_eq_some_iff.mpr ⟨rfl, lt_addressLimit small ?_⟩
  rw [chunkHeaderSize]
  omega

/-- One step of the search, with nothing left that could trap. -/
theorem locateFrom_step (wanted : Tag) (position : Nat) :
    locateFrom data wanted position =
      match data.slice? position 4 with
      | none => .ok none
      | some mark =>
        if mark = wanted.toBytes then .ok (some position)
        else
          match data.slice? (position + 4) 4 with
          | none => .ok none
          | some word => locateFrom data wanted
              (position + chunkHeaderSize + Bytes.bigEndian word + Bytes.bigEndian word % 2) := by
  rw [← window?_eq_slice? (.inl (lt_addressLimit small (by omega))), locateFrom]
  split
  next absent =>
    rw [absent]
    rfl
  next mark present =>
    have tagged := add_le_of_window? present
    simp only [present, length?_eq small tagged, Except.ok_bind_eq]
    split
    · rfl
    · cases counted : data.slice? (position + 4) 4 with
      | none => rfl
      | some word =>
        have step := nextStart?_eq small tagged (Bytes.length_of_slice? counted)
        simp only [Option.map_some]
        split
        next following reached =>
          rw [step, Option.some.injEq] at reached
          rw [reached]
        next unreached =>
          rw [step] at unreached
          cases unreached

/-- The search from one chunk to the next finds what the chain lists first. -/
theorem locateFrom_eq (wanted : Tag) (position : Nat) :
    locateFrom data wanted position = .ok (locateFrom? data wanted position) := by
  rw [locateFrom_step small, locateFrom?_eq]
  cases tagged : data.slice? position 4 with
  | none => rfl
  | some mark =>
    dsimp only
    split
    · rfl
    · cases counted : data.slice? (position + 4) 4 with
      | none => rfl
      | some word =>
        have enough := (Bytes.slice?_eq_some_iff.mp tagged).1
        dsimp only
        rw [nextStart?_eq small enough (Bytes.length_of_slice? counted), Option.bind_some]
        exact locateFrom_eq wanted _
termination_by data.length - position
decreasing_by
  rw [chunkHeaderSize]
  omega

theorem locate_eq (wanted : Tag) : locate data wanted = .ok (locate? data wanted) :=
  locateFrom_eq small wanted firstChunk

end

/-! ## The index -/

/-- The entry that a row of twelve bytes spells. -/
def entry (row : Bytes) : Trapping Entry := do
  let usage ← tag (← between row 0 4)
  let key ← number 4 (← between row 4 8)
  let start ← number 4 (← between row 8 12)
  pure ⟨usage, UInt32.ofNat key, UInt32.ofNat start⟩

/-- The entries of complete rows. -/
def entries (rows : Bytes) : Trapping (List Entry) :=
  if Entry.size ≤ rows.length then do
    let first ← entry (← between rows 0 Entry.size)
    let later ← entries (rows.drop Entry.size)
    pure (first :: later)
  else pure []
termination_by rows.length
decreasing_by
  simp only [Entry.size, List.length_drop] at *
  omega

theorem entries_eq (rows : Bytes) : entries rows = .ok (Entry.readAll rows) := by
  induction rows using Entry.readAll.induct with
  | case1 u₀ u₁ u₂ u₃ n₀ n₁ n₂ n₃ s₀ s₁ s₂ s₃ rest ih =>
    have spelled : entry [u₀, u₁, u₂, u₃, n₀, n₁, n₂, n₃, s₀, s₁, s₂, s₃] =
        .ok ⟨⟨u₀, u₁, u₂, u₃⟩, Bytes.word32 [n₀, n₁, n₂, n₃], Bytes.word32 [s₀, s₁, s₂, s₃]⟩ := rfl
    have enough : Entry.size ≤
        (u₀ :: u₁ :: u₂ :: u₃ :: n₀ :: n₁ :: n₂ :: n₃ :: s₀ :: s₁ :: s₂ :: s₃ :: rest).length :=
      Nat.le_add_left 12 rest.length
    rw [entries, if_pos enough, between_front enough, Entry.readAll]
    simp only [Except.ok_bind_eq, Entry.size, List.take_succ_cons, List.take_zero,
      List.drop_succ_cons, List.drop_zero, spelled, ih]
    rfl
  | case2 rows noRow =>
    rw [entries, if_neg (Nat.not_le.mpr (Entry.length_lt_size noRow)), Entry.readAll]
    · rfl
    · exact noRow

/-- Reads the index chunk at `at_`. -/
def index (data : Bytes) (at_ : Nat) : Trapping Index := do
  let place ← add at_ chunkHeaderSize
  let count ← number 4 (← read .resourceCount data place 4)
  let start ← add place 4
  match times? count Entry.size with
  | none => trap .deadBranch
  | some size =>
    let rows ← entries (← read .resourceEntries data start size)
    pure (Index.ofRows rows)

/-- Compares the identity that a container states, if it states one, with the header of a story. -/
def identity (data story : Bytes) : Trapping Unit := do
  match ← locate data Tag.storyIdentity with
  | none => pure ()
  | some at_ =>
    let place ← add at_ chunkHeaderSize
    let fields ← read .identityFields data place 10
    let release ← number 2 (← between fields 0 2)
    let serial ← between fields 2 8
    let checksum ← number 2 (← between fields 8 fields.length)
    let header ← header story
    match (⟨UInt16.ofNat release, serial, UInt16.ofNat checksum⟩ : Identity).mismatches header with
    | [] => pure ()
    | differing => refuse (.identityMismatch differing)

/-- Checks a container against the story that it is paired with, if there is one. -/
def checkReference (data : Bytes) : Option Bytes → Trapping Unit
  | none => pure ()
  | some story => identity data story

/-- The release number that a container states, or zero. -/
def release (data : Bytes) : Trapping UInt16 := do
  match ← locate data Tag.releaseNumber with
  | none => pure 0
  | some at_ =>
    let place ← add at_ chunkHeaderSize
    let release ← number 2 (← read .releaseNumber data place 2)
    pure (UInt16.ofNat release)

/-- Decodes a container. -/
def decode (data : Bytes) (reference : Option Bytes) : Trapping Container := do
  match ← locate data Tag.resourceIndex with
  | none => refuse .missingIndex
  | some at_ =>
    let index ← index data at_
    let reference := reference.filter fun story => !story.isEmpty
    checkReference data reference
    let release ← release data
    pure ⟨data, index, release, reference⟩

/-- Reads the chunk at any offset. -/
def chunk (data : Bytes) (offset : Nat) : Trapping Chunk := do
  let header ← read .chunkHeader data offset chunkHeaderSize
  let tag ← tag (← between header 0 4)
  let length ← number 4 (← between header 4 8)
  let start ← add offset chunkHeaderSize
  let payload ← read .chunkPayload data start length
  pure ⟨offset, tag, payload⟩

def resource? (container : Container) (usage : Tag) (number : UInt32) : Option (Trapping Chunk) :=
  (container.start? usage number).map (chunk container.data)

def executable (container : Container) (number : UInt32) : Trapping Bytes :=
  match container.start? Tag.executable number with
  | none => refuse (.missingExecutable number)
  | some start => do
    let chunk ← chunk container.data start
    if chunk.tag = Tag.zcode then pure chunk.payload
    else refuse (.foreignExecutable chunk.tag)

section

variable {data : Bytes} (small : data.length < 2 ^ 63)

include small

theorem read_eq_of_small (region : Region) (offset needed : Nat) :
    read region data offset needed = settled (region.read data offset needed) :=
  read_eq (.inl (lt_addressLimit small (by omega)))

/-- Each chunk that was found has an address for its payload. -/
theorem add_chunkHeaderSize_eq {at_ : Nat} (near : at_ ≤ data.length) :
    add at_ chunkHeaderSize = .ok (at_ + chunkHeaderSize) :=
  add_eq (lt_addressLimit small (by rw [chunkHeaderSize]; omega))

theorem index_eq {at_ : Nat} (near : at_ ≤ data.length) :
    index data at_ = settled (Index.read data at_).outcome := by
  simp only [index, Index.read, add_chunkHeaderSize_eq small near, Logged.outcome_bind,
    Logged.outcome_quiet, Logged.outcome_note, Logged.outcome_tell, Logged.outcome_pure,
    Except.ok_bind_eq]
  refine settled_bind (read_eq_of_small small _ _ _) fun count counted => ?_
  have width := Region.length_of_read counted
  obtain ⟨enough, _⟩ := Bytes.slice?_eq_some_iff.mp (Region.read_eq_ok_iff.mp counted)
  have start : add (at_ + chunkHeaderSize) 4 = .ok (at_ + chunkHeaderSize + 4) :=
    add_eq (lt_addressLimit small (by omega))
  have product : times? (Bytes.bigEndian count) Entry.size =
      some (Bytes.bigEndian count * Entry.size) := by
    have bound := Bytes.bigEndian_lt_of_length_eq_four width
    have limit : addressLimit = 2 ^ 64 := rfl
    refine if_pos ?_
    rw [Entry.size]
    omega
  simp only [number_eq width, start, product, Except.ok_bind_eq]
  refine settled_bind (read_eq_of_small small _ _ _) fun rows _ => ?_
  rw [entries_eq]
  rfl

theorem identity_eq (story : Bytes) :
    identity data story = settled (Identity.check data story).outcome := by
  simp only [identity, Identity.check, locate_eq small, Logged.outcome_bind, outcome_search,
    Except.ok_bind_eq]
  cases found : locate? data Tag.storyIdentity with
  | none => rfl
  | some at_ =>
    have near := le_of_locate? found
    simp only [add_chunkHeaderSize_eq small near, Logged.outcome_quiet, Identity.compare,
      Identity.read, Except.ok_bind_eq, bind_assoc, pure_bind]
    refine settled_bind (read_eq_of_small small _ _ _) fun fields present => ?_
    have width : fields.length = 10 := Region.length_of_read present
    have release : between fields 0 2 = .ok (fields.take 2) := between_front (by omega)
    have serial : between fields 2 8 = .ok ((fields.drop 2).take 6) :=
      between_eq (by decide) (by omega)
    have checksum : between fields 8 fields.length = .ok (fields.drop 8) := between_back (by omega)
    have releaseWidth : (fields.take 2).length = 2 := List.length_take_of_le (by omega)
    have checksumWidth : (fields.drop 8).length = 2 := by rw [List.length_drop]; omega
    simp only [release, serial, checksum, number_eq releaseWidth, number_eq checksumWidth,
      Except.ok_bind_eq]
    refine settled_bind (header_eq story) fun header _ => ?_
    simp only [Bytes.word16]
    generalize Identity.mismatches _ header = mismatches
    cases mismatches <;> rfl

theorem checkReference_eq (reference : Option Bytes) :
    checkReference data reference = settled (Container.checkReference data reference).outcome := by
  cases reference with
  | none => rfl
  | some story => exact identity_eq small story

theorem release_eq : release data = settled (Container.readRelease data).outcome := by
  simp only [release, Container.readRelease, locate_eq small, Logged.outcome_bind, outcome_search,
    Except.ok_bind_eq]
  cases found : locate? data Tag.releaseNumber with
  | none => rfl
  | some at_ =>
    have near := le_of_locate? found
    simp only [add_chunkHeaderSize_eq small near, Logged.outcome_bind, Logged.outcome_quiet,
      Logged.outcome_pure, Except.ok_bind_eq]
    refine settled_bind (read_eq_of_small small _ _ _) fun field present => ?_
    rw [number_eq (Region.length_of_read present)]
    rfl

theorem decode_eq (reference : Option Bytes) :
    decode data reference = settled (Container.decode data reference).outcome := by
  simp only [decode, Container.decode, locate_eq small, Logged.outcome_bind, Logged.outcome_note,
    outcome_search, Except.ok_bind_eq]
  cases found : locate? data Tag.resourceIndex with
  | none => rfl
  | some at_ =>
    have near := le_of_locate? found
    simp only [Logged.outcome_bind, Logged.outcome_note, Logged.outcome_pure, Except.ok_bind_eq]
    refine settled_bind (index_eq small near) fun index _ => ?_
    refine settled_bind (checkReference_eq small _) fun _ _ => ?_
    refine settled_bind (release_eq small) fun release _ => ?_
    rfl

theorem chunk_eq (offset : Nat) : chunk data offset = settled (Chunk.read data offset) := by
  refine settled_bind (read_eq_of_small small _ _ _) fun header started => ?_
  have width : header.length = 8 := Region.length_of_read started
  have near : offset ≤ data.length :=
    Nat.le_of_add_right_le (Bytes.slice?_eq_some_iff.mp (Region.read_eq_ok_iff.mp started)).1
  have tagged : between header 0 4 = .ok (header.take 4) := between_front (by omega)
  have counted : between header 4 8 = .ok (header.drop 4) := width ▸ between_back (by omega)
  have tagWidth : (header.take 4).length = 4 := List.length_take_of_le (by omega)
  have lengthWidth : (header.drop 4).length = 4 := by rw [List.length_drop, width]
  simp only [tagged, counted, tag_eq tagWidth, number_eq lengthWidth,
    add_chunkHeaderSize_eq small near, Except.ok_bind_eq]
  have sameTag : Tag.ofBytes (header.take 4) = Tag.ofBytes header := by
    simp [Tag.ofBytes, List.getD]
  refine settled_bind (read_eq_of_small small _ _ _) fun payload _ => ?_
  rw [sameTag]
  rfl

end

theorem executable_eq {container : Container} (small : container.data.length < 2 ^ 63)
    (number : UInt32) :
    executable container number = settled (container.executable number).outcome := by
  rw [executable, Container.executable]
  cases container.start? Tag.executable number with
  | none => rfl
  | some start =>
    simp only [Logged.outcome_bind, Logged.outcome_quiet]
    refine settled_bind (chunk_eq small start) fun chunk _ => ?_
    split <;> rfl

end StoryBundle.Trapping
