import StoryBundle.Container.Layout
import StoryBundle.Proofs.Bytes

/-!
# The chain of laid-out chunks

A search looks at one place of a file after the other (`locateFrom?_eq`). The chain of a run of pieces
lists their places, tags and lengths (`startsFrom_pieces`), so what a search finds in a laid-out
container is one of the pieces (`exists_piece_of_mem_startsOf`).
-/

namespace StoryBundle

theorem advance?_eq_some_iff {address distance moved : Nat} :
    advance? address distance = some moved ↔
      address + distance = moved ∧ moved < addressLimit := by
  unfold advance?
  split
  · rw [Option.some.injEq]
    constructor
    · rintro rfl
      exact ⟨rfl, by assumption⟩
    · exact And.left
  · simp only [reduceCtorEq, false_iff, not_and]
    rintro rfl
    assumption

/-- The next start is the sum of its parts if that sum is an address. -/
theorem nextStart?_eq_some_iff {offset length next : Nat} :
    nextStart? offset length = some next ↔
      offset + chunkHeaderSize + length + length % 2 = next ∧ next < addressLimit := by
  simp only [nextStart?, Option.bind_eq_bind, Option.bind_eq_some_iff, advance?_eq_some_iff]
  constructor
  · rintro ⟨payload, ⟨rfl, _⟩, padding, ⟨rfl, _⟩, rfl, small⟩
    exact ⟨rfl, small⟩
  · rintro ⟨rfl, small⟩
    exact ⟨_, ⟨rfl, by omega⟩, _, ⟨rfl, by omega⟩, rfl, small⟩

/-- There is no next start past the last address. -/
theorem nextStart?_eq_none_iff {offset length : Nat} :
    nextStart? offset length = none ↔
      addressLimit ≤ offset + chunkHeaderSize + length + length % 2 := by
  rw [Option.eq_none_iff_forall_ne_some]
  simp only [ne_eq, nextStart?_eq_some_iff, not_and, Nat.not_lt]
  exact ⟨fun beyond => beyond _ rfl, fun beyond _ sum => sum ▸ beyond⟩

/-- A tag with a complete length starts the chain, which goes on where the length leads. -/
theorem startsFrom_header {position : Nat} {tag : Tag} {word more : Bytes}
    (width : word.length = 4) :
    startsFrom position (tag.toBytes ++ (word ++ more)) =
      ⟨position, tag, some (Bytes.bigEndian word)⟩ ::
        match nextStart? position (Bytes.bigEndian word) with
        | some next =>
          startsFrom next (more.drop (Bytes.bigEndian word + Bytes.bigEndian word % 2))
        | none => [] := by
  match tag, word, width with
  | ⟨a, b, c, d⟩, [l₀, l₁, l₂, l₃], _ =>
    -- The chain goes on or ends with the step, on both sides alike.
    cases step : nextStart? position (Bytes.bigEndian [l₀, l₁, l₂, l₃]) <;>
      simp only [Tag.toBytes, List.cons_append, List.nil_append, startsFrom, step]

/-- Fewer bytes than a tag has are no start. -/
theorem startsFrom_of_short {position : Nat} {rest : Bytes} (short : rest.length < 4) :
    startsFrom position rest = [] := by
  match rest, short with
  | [], _ | [_], _ | [_, _], _ | [_, _, _], _ => rw [startsFrom] <;> simp

/-- A tag without a complete length ends the chain. -/
theorem startsFrom_of_short_length {position : Nat} {tag : Tag} {rest : Bytes}
    (short : rest.length < 4) : startsFrom position (tag.toBytes ++ rest) = [⟨position, tag, none⟩] := by
  match rest, short with
  | [], _ | [_], _ | [_, _], _ | [_, _, _], _ => simp [Tag.toBytes, startsFrom]

/-- A tag starts the chain, whether or not its length is there. -/
theorem exists_startsFrom_tag (position : Nat) (tag : Tag) (rest : Bytes) :
    ∃ length? later, startsFrom position (tag.toBytes ++ rest) = ⟨position, tag, length?⟩ :: later := by
  match rest with
  | l₀ :: l₁ :: l₂ :: l₃ :: more =>
    exact ⟨_, _, @startsFrom_header position tag [l₀, l₁, l₂, l₃] more rfl⟩
  | [] | [_] | [_, _] | [_, _, _] => exact ⟨none, [], startsFrom_of_short_length (by simp)⟩

/-! ## The chain at a place of a file -/

section

variable {data : Bytes} {position : Nat} {tag : Tag}

theorem startsFrom_drop_of_absent (absent : data.slice? position 4 = none) :
    startsFrom position (data.drop position) = [] := by
  have short := Bytes.slice?_eq_none_iff.mp absent
  exact startsFrom_of_short (by rw [List.length_drop]; omega)

theorem startsFrom_drop_of_cut (tagged : data.slice? position 4 = some tag.toBytes)
    (cut : data.slice? (position + 4) 4 = none) :
    startsFrom position (data.drop position) = [⟨position, tag, none⟩] := by
  have short := Bytes.slice?_eq_none_iff.mp cut
  rw [Bytes.drop_of_slice? tagged]
  exact startsFrom_of_short_length (by rw [List.length_drop]; omega)

theorem startsFrom_drop_of_header {word : Bytes}
    (tagged : data.slice? position 4 = some tag.toBytes)
    (counted : data.slice? (position + 4) 4 = some word) :
    startsFrom position (data.drop position) =
      ⟨position, tag, some (Bytes.bigEndian word)⟩ ::
        match nextStart? position (Bytes.bigEndian word) with
        | some next => startsFrom next (data.drop next)
        | none => [] := by
  rw [Bytes.drop_of_slice? tagged, Bytes.drop_of_slice? counted,
    startsFrom_header (Bytes.length_of_slice? counted)]
  cases step : nextStart? position (Bytes.bigEndian word) with
  | none => rfl
  | some next =>
    obtain ⟨forward, _⟩ := nextStart?_eq_some_iff.mp step
    have place : position + 4 + 4 + (Bytes.bigEndian word + Bytes.bigEndian word % 2) = next := by
      rw [← forward, chunkHeaderSize]
      omega
    simp only [List.drop_drop, place]

end

/-! ## The search for a tag -/

/-- Where the first start with a tag stands that is found from a place on. -/
def locateFrom? (data : Bytes) (tag : Tag) (place : Nat) : Option Nat :=
  ((startsFrom place (data.drop place)).find? (·.tag == tag)).map Start.offset

/-- One step of the search: it ends at the tag, at the end of the file or where no address is left, and
goes on at the place to which the length leads. -/
theorem locateFrom?_eq (data : Bytes) (tag : Tag) (place : Nat) :
    locateFrom? data tag place =
      match data.slice? place 4 with
      | none => none
      | some mark =>
        if mark = tag.toBytes then some place
        else
          match data.slice? (place + 4) 4 with
          | none => none
          | some word => (nextStart? place (Bytes.bigEndian word)).bind (locateFrom? data tag) := by
  rw [locateFrom?]
  cases tagged : data.slice? place 4 with
  | none =>
    rw [startsFrom_drop_of_absent tagged]
    rfl
  | some mark =>
    obtain ⟨own, rfl⟩ := Tag.exists_toBytes_eq (Bytes.length_of_slice? tagged)
    by_cases same : own = tag
    · subst same
      obtain ⟨length?, later, started⟩ := exists_startsFrom_tag place own (data.drop (place + 4))
      rw [Bytes.drop_of_slice? tagged, started, List.find?_cons, beq_self_eq_true]
      simp only [if_pos, Option.map_some]
    · have different : own.toBytes ≠ tag.toBytes :=
        fun spelled => same (Tag.toBytes_injective spelled)
      have passed : (own == tag) = false := beq_eq_false_iff_ne.mpr same
      simp only [if_neg different]
      cases counted : data.slice? (place + 4) 4 with
      | none =>
        rw [startsFrom_drop_of_cut tagged counted, List.find?_cons, passed]
        rfl
      | some word =>
        rw [startsFrom_drop_of_header tagged counted, List.find?_cons, passed]
        dsimp only
        cases nextStart? place (Bytes.bigEndian word) with
        | none => rfl
        | some next => rfl

/-- Lengths only lead forward, and the tag of every start is there in full. -/
theorem bounds_of_mem_startsFrom {position : Nat} {rest : Bytes} {start : Start}
    (listed : start ∈ startsFrom position rest) :
    position ≤ start.offset ∧ start.offset + 4 ≤ position + rest.length := by
  induction position, rest using startsFrom.induct with
  | case1 position a b c d l₀ l₁ l₂ l₃ more length ih =>
    change start ∈ startsFrom position (Tag.toBytes ⟨a, b, c, d⟩ ++ ([l₀, l₁, l₂, l₃] ++ more)) at listed
    rw [startsFrom_header rfl, List.mem_cons] at listed
    change position ≤ start.offset ∧ start.offset + 4 ≤ position + (more.length + 8)
    rcases listed with rfl | later
    · change position ≤ position ∧ position + 4 ≤ _
      omega
    · cases step : nextStart? position length with
      | none =>
        rw [step] at later
        cases later
      | some next =>
        rw [step] at later
        change start ∈ startsFrom next (more.drop (length + length % 2)) at later
        obtain ⟨behind, reach⟩ := ih next later
        obtain ⟨forward, _⟩ := nextStart?_eq_some_iff.mp step
        -- A length that leads past the end leads to no start.
        by_cases short : (more.drop (length + length % 2)).length < 4
        · rw [startsFrom_of_short short] at later
          cases later
        · rw [List.length_drop] at reach short
          rw [chunkHeaderSize] at forward
          omega
  | case2 position a b c d rest short =>
    rw [startsFrom] at listed
    · obtain rfl := List.mem_singleton.mp listed
      change position ≤ position ∧ position + 4 ≤ position + (rest.length + 4)
      omega
    · exact short
  | case3 position rest noHeader noTag =>
    rw [startsFrom] at listed
    · cases listed
    · exact noHeader
    · exact noTag

/-- What a search finds lies behind the form header. -/
theorem firstChunk_le_of_locate? {data : Bytes} {tag : Tag} {at_ : Nat}
    (found : locate? data tag = some at_) : firstChunk ≤ at_ := by
  obtain ⟨start, first, rfl⟩ := Option.map_eq_some_iff.mp found
  exact (bounds_of_mem_startsFrom (List.mem_of_find?_eq_some first)).1

/-- What a search finds lies before the end. -/
theorem add_le_of_locate? {data : Bytes} {tag : Tag} {at_ : Nat} (found : locate? data tag = some at_) :
    at_ + 4 ≤ data.length := by
  obtain ⟨start, first, rfl⟩ := Option.map_eq_some_iff.mp found
  have listed := List.mem_of_find?_eq_some first
  obtain ⟨_, reach⟩ := bounds_of_mem_startsFrom listed
  by_cases empty : data.length < firstChunk
  · rw [chain, List.drop_eq_nil_of_le (Nat.le_of_lt empty), startsFrom_of_short (by decide)] at listed
    cases listed
  · rw [List.length_drop] at reach
    omega

theorem le_of_locate? {data : Bytes} {tag : Tag} {at_ : Nat} (found : locate? data tag = some at_) :
    at_ ≤ data.length :=
  Nat.le_of_add_right_le (add_le_of_locate? found)

namespace Layout

theorem Piece.length_bytes (piece : Piece) :
    piece.bytes.length =
      chunkHeaderSize + piece.payload.length + piece.payload.length % 2 := by
  simp only [Piece.bytes, chunkHeaderSize, List.length_append, Tag.length_toBytes,
    Bytes.length_toBigEndian, List.length_replicate]

/-- The starts of pieces that lie one after the other, the first one at `position`. -/
def startsOf : Nat → List Piece → List Start
  | _, [] => []
  | position, piece :: rest =>
    ⟨position, piece.tag, some piece.payload.length⟩ ::
      startsOf (position + piece.bytes.length) rest

/-- The length in front of a payload reads back. -/
theorem Piece.bigEndian_length {piece : Piece} (written : piece.payload.length < UInt32.size) :
    Bytes.bigEndian (Bytes.toBigEndian 4 piece.payload.length) = piece.payload.length :=
  Bytes.bigEndian_toBigEndian_of_lt written

/-- The chain steps over a laid-out piece to whatever follows it. -/
theorem startsFrom_piece {position : Nat} {piece : Piece} {rest : Bytes}
    (written : piece.payload.length < UInt32.size)
    (reached : position + piece.bytes.length < addressLimit) :
    startsFrom position (piece.bytes ++ rest) =
      ⟨position, piece.tag, some piece.payload.length⟩ ::
        startsFrom (position + piece.bytes.length) rest := by
  have next : nextStart? position piece.payload.length =
      some (position + piece.bytes.length) := by
    have width := piece.length_bytes
    rw [nextStart?_eq_some_iff]
    omega
  have past : (piece.payload ++ (List.replicate (piece.payload.length % 2) 0 ++ rest)).drop
      (piece.payload.length + piece.payload.length % 2) = rest := by
    rw [← List.append_assoc]
    exact List.drop_left' (by simp)
  have shape : piece.bytes ++ rest = piece.tag.toBytes ++
      (Bytes.toBigEndian 4 piece.payload.length ++
        (piece.payload ++ (List.replicate (piece.payload.length % 2) 0 ++ rest))) := by
    simp only [Piece.bytes, List.append_assoc]
  rw [shape, startsFrom_header (Bytes.length_toBigEndian 4 _),
    Piece.bigEndian_length written, next]
  simp only [past]

theorem startsFrom_pieces {position : Nat} {pieces : List Piece}
    (written : ∀ piece ∈ pieces, piece.payload.length < UInt32.size)
    (reached : position + (pieces.flatMap Piece.bytes).length < addressLimit) :
    startsFrom position (pieces.flatMap Piece.bytes) = startsOf position pieces := by
  induction pieces generalizing position with
  | nil => exact startsFrom_of_short (by decide)
  | cons piece rest ih =>
    obtain ⟨first, others⟩ := List.forall_mem_cons.mp written
    rw [List.flatMap_cons, List.length_append] at reached
    rw [List.flatMap_cons, startsFrom_piece first (by omega), ih others (by omega), startsOf]

theorem startsOf_append (position : Nat) (before after : List Piece) :
    startsOf position (before ++ after) = startsOf position before ++
      startsOf (position + (before.flatMap Piece.bytes).length) after := by
  induction before generalizing position with
  | nil => rfl
  | cons piece rest ih =>
    rw [List.cons_append, startsOf, ih, List.flatMap_cons, List.length_append, ← Nat.add_assoc]
    rfl

/-- Every start that is listed belongs to a piece, which lies after the pieces before it. -/
theorem exists_piece_of_mem_startsOf {position : Nat} {pieces : List Piece} {start : Start}
    (listed : start ∈ startsOf position pieces) :
    ∃ before piece after, pieces = before ++ piece :: after ∧ piece.tag = start.tag ∧
      start.offset = position + (before.flatMap Piece.bytes).length := by
  induction pieces generalizing position with
  | nil => simp [startsOf] at listed
  | cons head rest ih =>
    rw [startsOf, List.mem_cons] at listed
    rcases listed with rfl | later
    · exact ⟨[], head, rest, rfl, rfl, rfl⟩
    · obtain ⟨before, piece, after, rfl, sameTag, place⟩ := ih later
      refine ⟨head :: before, piece, after, rfl, sameTag, ?_⟩
      rw [place, List.flatMap_cons, List.length_append, Nat.add_assoc]

end Layout
end StoryBundle
