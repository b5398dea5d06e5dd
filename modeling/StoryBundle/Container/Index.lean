import StoryBundle.Container.Chain
import StoryBundle.Repeats

/-!
# The resource index

An index says where the resource with a usage and a number starts. It is kept in order of usage,
compared byte by byte, and then of number, with one entry for each pair. Of several rows for the
same pair the last one counts.
-/

namespace StoryBundle

structure Entry where
  usage : Tag
  number : UInt32
  start : UInt32
deriving DecidableEq, Repr

namespace Entry

/-- What an entry is looked up by. -/
def key (entry : Entry) : Tag × UInt32 := (entry.usage, entry.number)

/-- The order of an index: by the bytes of the usage and then by number. -/
def Before (left right : Entry) : Prop :=
  left.usage.toBytes < right.usage.toBytes ∨
    left.usage = right.usage ∧ left.number < right.number

instance (left right : Entry) : Decidable (Before left right) := by
  unfold Before
  infer_instance

/-- The size of an entry in a file. -/
def size : Nat := 12

/-- The entries that twelve bytes each spell. Bytes left over at the end are no entry. -/
def readAll : Bytes → List Entry
  | u₀ :: u₁ :: u₂ :: u₃ :: n₀ :: n₁ :: n₂ :: n₃ :: s₀ :: s₁ :: s₂ :: s₃ :: rest =>
    ⟨⟨u₀, u₁, u₂, u₃⟩, Bytes.word32 [n₀, n₁, n₂, n₃], Bytes.word32 [s₀, s₁, s₂, s₃]⟩ ::
      readAll rest
  | _ => []

end Entry

abbrev Index := List Entry

namespace Index

/-- Puts an entry in its place, unless one with its key is there already. -/
def insertNew (entry : Entry) : Index → Index
  | [] => [entry]
  | head :: rest =>
    if entry.key = head.key then head :: rest
    else if entry.Before head then entry :: head :: rest
    else head :: insertNew entry rest

/-- The index of the rows of a file. The last row goes in first, so that it takes precedence. -/
def ofRows (rows : List Entry) : Index := rows.foldr insertNew []

/-- Where the resource with a usage and a number starts. -/
def start? (index : Index) (usage : Tag) (number : UInt32) : Option Nat :=
  (index.find? fun entry => entry.key == (usage, number)).map fun entry => entry.start.toNat

/-- What is reported of a row whose key an earlier row has. -/
def repeatNote (row : Entry) : Note :=
  ⟨.debug, .container,
    s!"\tduplicate index entry {row.usage.quoted} {row.number.toNat}, keeping the later one"⟩

/-- Reads the index chunk that starts at `at_`: a count and then as many rows. -/
def read (data : Bytes) (at_ : Nat) : Logged DecodeError Index := do
  let count ← .quiet (Region.resourceCount.read data (at_ + chunkHeaderSize) 4)
  let count := Bytes.bigEndian count
  .note .debug .container s!"\tResource Count: {count}"
  let bytes ← .quiet
    (Region.resourceEntries.read data (at_ + chunkHeaderSize + 4) (count * Entry.size))
  let rows := Entry.readAll bytes
  .tell ((repeats Entry.key rows).map fun (_, row) => repeatNote row)
  pure (ofRows rows)

end Index
end StoryBundle
