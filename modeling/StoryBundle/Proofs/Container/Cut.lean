import StoryBundle.Proofs.Container.RoundTrip

/-!
# Containers that are cut short

Bytes that are put behind a file only lengthen its chain (`marks_startsFrom_append`), and whatever was
read of it is read again. So the front of a container is refused for a part that is missing, or it
decodes to the same index, and each resource that can be read from it is a resource of the whole
(`decode_front`).
-/

namespace StoryBundle

/-! ## The chain -/

/-- What a search looks at: the place and the tag of a start. -/
def Start.mark (start : Start) : Nat × Tag := (start.offset, start.tag)

theorem locate?_eq_find?_mark (data : Bytes) (tag : Tag) :
    locate? data tag = (((chain data).map Start.mark).find? (·.2 == tag)).map Prod.fst := by
  rw [List.find?_map, Option.map_map]
  rfl

/-- Bytes behind a file only lengthen its chain. -/
theorem marks_startsFrom_append (position : Nat) (front more : Bytes) :
    (startsFrom position front).map Start.mark <+:
      (startsFrom position (front ++ more)).map Start.mark := by
  induction position, front using startsFrom.induct generalizing more with
  | case1 position a b c d l₀ l₁ l₂ l₃ rest length ih =>
    have header (following : Bytes) :=
      @startsFrom_header position ⟨a, b, c, d⟩ [l₀, l₁, l₂, l₃] following rfl
    have behind : a :: b :: c :: d :: l₀ :: l₁ :: l₂ :: l₃ :: rest ++ more =
        Tag.toBytes ⟨a, b, c, d⟩ ++ ([l₀, l₁, l₂, l₃] ++ (rest ++ more)) := rfl
    rw [behind, header]
    change (startsFrom position (Tag.toBytes ⟨a, b, c, d⟩ ++ ([l₀, l₁, l₂, l₃] ++ rest))).map _ <+: _
    rw [header]
    -- Both chains go on from the same place, or both end here.
    cases nextStart? position (Bytes.bigEndian [l₀, l₁, l₂, l₃]) with
    | none => exact List.prefix_refl _
    | some next =>
      rw [List.drop_append]
      exact (List.prefix_cons_inj _).mpr (ih next _)
  | case2 position a b c d rest short =>
    have alone : startsFrom position (a :: b :: c :: d :: rest) = [⟨position, ⟨a, b, c, d⟩, none⟩] := by
      rw [startsFrom]
      exact short
    obtain ⟨length?, later, longer⟩ := exists_startsFrom_tag position ⟨a, b, c, d⟩ (rest ++ more)
    have behind : a :: b :: c :: d :: rest ++ more =
        Tag.toBytes ⟨a, b, c, d⟩ ++ (rest ++ more) := rfl
    rw [alone, behind, longer]
    exact (List.prefix_cons_inj _).mpr List.nil_prefix
  | case3 position front noHeader noTag =>
    have nothing : startsFrom position front = [] := by
      rw [startsFrom]
      · exact noHeader
      · exact noTag
    rw [nothing]
    exact List.nil_prefix

/-- A chunk that is found in the front of a file is the one that is found in the file. -/
theorem locate?_append {front more : Bytes} {tag : Tag} {at_ : Nat}
    (found : locate? front tag = some at_) : locate? (front ++ more) tag = some at_ := by
  rw [locate?_eq_find?_mark, Option.map_eq_some_iff] at found ⊢
  obtain ⟨mark, first, rfl⟩ := found
  refine ⟨mark, List.IsPrefix.find?_eq_some ?_ first, rfl⟩
  rw [chain, chain, List.drop_append]
  exact marks_startsFrom_append _ _ _

/-! ## What was read is read again -/

theorem Index.read_append {front more : Bytes} {at_ : Nat} {index : Index}
    (listed : (Index.read front at_).outcome = .ok index) :
    (Index.read (front ++ more) at_).outcome = .ok index := by
  obtain ⟨count, rows, counted, present, same⟩ := Index.read_eq_ok_iff.mp listed
  exact Index.read_eq_ok_iff.mpr ⟨count, rows, Bytes.slice?_append_of_some counted,
    Bytes.slice?_append_of_some present, same⟩

theorem Chunk.read_append {front more : Bytes} {offset : Nat} {chunk : Chunk}
    (present : Chunk.read front offset = .ok chunk) :
    Chunk.read (front ++ more) offset = .ok chunk := by
  obtain ⟨header, payload, started, present, same⟩ := Chunk.read_eq_ok_iff.mp present
  exact Chunk.read_eq_ok_iff.mpr ⟨header, payload, Bytes.slice?_append_of_some started,
    Bytes.slice?_append_of_some present, same⟩

namespace Container

/-- The release number may be what is cut off, which then counts as zero. -/
theorem readRelease_append {front more : Bytes} {release whole : UInt16}
    (stated : (readRelease front).outcome = .ok release)
    (wholeStated : (readRelease (front ++ more)).outcome = .ok whole) :
    release = whole ∨ release = 0 := by
  rcases readRelease_eq_ok_iff.mp stated with ⟨_, zero⟩ | ⟨at_, field, found, present, value⟩
  · exact .inr zero
  · have again : (readRelease (front ++ more)).outcome = .ok release := readRelease_eq_ok_iff.mpr
      (.inr ⟨at_, field, locate?_append found, Bytes.slice?_append_of_some present, value⟩)
    rw [wholeStated, Except.ok.injEq] at again
    exact .inl again.symm

/-- What one container says holds of another: it has the same index, its release number is the same
or is not stated, and each resource that can be read is the same in the other. -/
structure Foretells (part whole : Container) : Prop where
  index : part.index = whole.index
  release : part.release = whole.release ∨ part.release = 0
  resource : ∀ usage number chunk, part.resource? usage number = some (.ok chunk) →
    whole.resource? usage number = some (.ok chunk)
  executable : ∀ number image, (part.executable number).outcome = .ok image →
    (whole.executable number).outcome = .ok image

variable {front more : Bytes} {part whole : Container}

theorem foretells_of_append (decoded : (decode front none).outcome = .ok part)
    (wholeDecoded : (decode (front ++ more) none).outcome = .ok whole) : part.Foretells whole := by
  obtain ⟨at_, indexed, listed, _, released, rfl, _⟩ := decode_eq_ok_iff.mp decoded
  obtain ⟨place, alsoIndexed, alsoListed, _, alsoReleased, sameData, _⟩ :=
    decode_eq_ok_iff.mp wholeDecoded
  have sameIndex : part.index = whole.index := by
    rw [locate?_append indexed, Option.some.injEq] at alsoIndexed
    subst alsoIndexed
    rw [Index.read_append listed, Except.ok.injEq] at alsoListed
    exact alsoListed
  have sameStart (usage : Tag) (number : UInt32) :
      part.start? usage number = whole.start? usage number := by
    rw [start?, start?, sameIndex]
  have sameChunk {start : Nat} {chunk : Chunk} (present : Chunk.read part.data start = .ok chunk) :
      Chunk.read whole.data start = .ok chunk := by
    rw [sameData]
    exact Chunk.read_append present
  refine ⟨sameIndex, readRelease_append released alsoReleased, ?_, ?_⟩
  · intro usage number chunk present
    obtain ⟨start, started, read⟩ := Option.map_eq_some_iff.mp present
    rw [resource?, ← sameStart, started, Option.map_some, sameChunk read]
  · intro number image present
    obtain ⟨start, chunk, started, read, story, payload⟩ := executable_eq_ok_iff.mp present
    rw [sameStart] at started
    exact executable_eq_ok_iff.mpr ⟨start, chunk, started, sameChunk read, story, payload⟩

/-- Without a reference a container is refused only for what is missing. -/
theorem decode_none_eq_error {data : Bytes} {cause : DecodeError}
    (failed : (decode data none).outcome = .error cause) :
    cause = .missingIndex ∨
      ∃ region offset needed, cause = .truncated region offset needed data.length := by
  rcases decode_eq_error_iff.mp failed with ⟨_, rfl⟩ | ⟨at_, _, failed | ⟨_, failed | ⟨_, failed⟩⟩⟩
  · exact .inl rfl
  · rcases Index.read_eq_error_iff.mp failed with ⟨_, rfl⟩ | ⟨count, _, _, rfl⟩
    · exact .inr ⟨_, _, _, rfl⟩
    · exact .inr ⟨_, _, _, rfl⟩
  · cases failed
  · obtain ⟨_, _, _, rfl⟩ := readRelease_eq_error_iff.mp failed
    exact .inr ⟨_, _, _, rfl⟩

/-- The front of a container is refused because its index is missing or because it ends too soon, or
it foretells the container. So bytes that are put behind a container change nothing that it said, as
long as it still decodes. -/
theorem decode_front {data : Bytes} (decoded : (decode data none).outcome = .ok whole) :
    (∀ front, front <+: data →
      (decode front none).outcome = .error .missingIndex ∨
      (∃ region offset needed,
        (decode front none).outcome = .error (.truncated region offset needed front.length)) ∨
      ∃ part, (decode front none).outcome = .ok part ∧ part.Foretells whole) ∧
    ∀ more longer, (decode (data ++ more) none).outcome = .ok longer → whole.Foretells longer := by
  constructor
  · rintro front ⟨more, rfl⟩
    cases outcome : (decode front none).outcome with
    | error cause =>
      rcases decode_none_eq_error outcome with rfl | ⟨region, offset, needed, rfl⟩
      · exact .inl rfl
      · exact .inr (.inl ⟨region, offset, needed, rfl⟩)
    | ok part => exact .inr (.inr ⟨part, rfl, foretells_of_append outcome decoded⟩)
  · intro more longer alsoDecoded
    exact foretells_of_append decoded alsoDecoded

/-- The container of the laid-out sample. -/
def sampleWhole : Container where
  data := Layout.file Layout.sampleResources Layout.sampleExtras
  index := [⟨Tag.executable, 0, 60⟩, ⟨⟨0x50, 0x69, 0x63, 0x74⟩, 1, 84⟩]
  release := 7
  reference := none

/-- The sample up to the middle of its last picture, which takes the release number away. -/
def samplePart : Container :=
  { sampleWhole with data := sampleWhole.data.take 90, release := 0 }

theorem decode_front_sample :
    (decode sampleWhole.data none).outcome = .ok sampleWhole ∧
      samplePart.data <+: sampleWhole.data ∧
      (decode samplePart.data none).outcome = .ok samplePart ∧
      (sampleWhole.executable 0).outcome = .ok [3, 0, 0, 88, 1] := by
  have decoded : (decode sampleWhole.data none).outcome = .ok sampleWhole := by decide +kernel
  have cut : samplePart.data <+: sampleWhole.data := List.take_prefix 90 sampleWhole.data
  have partDecoded : (decode samplePart.data none).outcome = .ok samplePart := by decide +kernel
  refine ⟨decoded, cut, partDecoded, ?_⟩
  rcases (decode_front decoded).1 _ cut with missing | ⟨_, _, _, truncated⟩ | ⟨part, also, foretold⟩
  · rw [partDecoded] at missing
    cases missing
  · rw [partDecoded] at truncated
    cases truncated
  · rw [partDecoded, Except.ok.injEq] at also
    subst also
    exact foretold.executable 0 _ (by decide +kernel)

end Container
end StoryBundle
