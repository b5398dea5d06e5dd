import StoryBundle.Container.Chain
import StoryBundle.Proofs.Bytes
import StoryBundle.Proofs.Container.Chain
import StoryBundle.Proofs.Except

/-!
# Computations that trap

A machine has no address past its last one and no bytes outside of a buffer. A trapping computation
says so: a step that relies on its sum being an address, or on its bytes being there, traps where it
is not so. A refusal is not a trap but a result like any other. `settled` is the computation that
ends as a plain one does, so a computation that is equal to it traps nowhere.
-/

namespace StoryBundle

/-- What a step relied on without looking. -/
inductive Trap where
  /-- The bytes from `start` up to `stop` lie in a buffer of this length. -/
  | outside (start stop length : Nat)
  /-- The sum is an address. -/
  | overflow (left right : Nat)
  /-- There are as many bytes as a field holds. -/
  | misfit (needed length : Nat)
  /-- The branch is never taken. -/
  | deadBranch
deriving DecidableEq, Repr

/-- Why there is no value. -/
inductive Stop where
  | trap (cause : Trap)
  | refusal (cause : DecodeError)
deriving DecidableEq, Repr

abbrev Trapping (α : Type) : Type := Except Stop α

namespace Trapping

variable {α β : Type}

def trap (cause : Trap) : Trapping α := .error (.trap cause)

def refuse (cause : DecodeError) : Trapping α := .error (.refusal cause)

/-- The computation that ends like a plain one. -/
def settled (outcome : Except DecodeError α) : Trapping α := outcome.mapError .refusal

theorem settled_ne_trap (outcome : Except DecodeError α) (cause : Trap) :
    settled outcome ≠ trap cause := by
  cases outcome <;> simp [settled, trap, Except.mapError]

/-- Two sequences end alike if their first steps do and, with the value that those give, what
follows does. -/
theorem settled_bind {first : Trapping α} {plain : Except DecodeError α} {next : α → Trapping β}
    {rest : α → Except DecodeError β} (same : first = settled plain)
    (follows : ∀ value, plain = .ok value → next value = settled (rest value)) :
    first >>= next = settled (plain >>= rest) := by
  subst same
  cases plain with
  | error cause => rfl
  | ok value => exact follows value rfl

/-! ## Addresses -/

/-- A sum that is taken to be an address. -/
def add (left right : Nat) : Trapping Nat :=
  if left + right < addressLimit then .ok (left + right) else trap (.overflow left right)

theorem add_eq {left right : Nat} (small : left + right < addressLimit) :
    add left right = .ok (left + right) := if_pos small

/-- A product, if it is an address. -/
def times? (left right : Nat) : Option Nat :=
  if left * right < addressLimit then some (left * right) else none

/-! ## Buffers -/

/-- The bytes from `start` up to `stop`, if they are there. -/
def between? (data : Bytes) (start stop : Nat) : Option Bytes :=
  if start ≤ stop ∧ stop ≤ data.length then some ((data.drop start).take (stop - start)) else none

/-- The bytes from `start` up to `stop`, which are taken to be there. -/
def between (data : Bytes) (start stop : Nat) : Trapping Bytes :=
  match between? data start stop with
  | some piece => .ok piece
  | none => trap (.outside start stop data.length)

theorem between_eq {data : Bytes} {start stop : Nat} (order : start ≤ stop)
    (enough : stop ≤ data.length) :
    between data start stop = .ok ((data.drop start).take (stop - start)) := by
  rw [between, between?, if_pos ⟨order, enough⟩]

theorem between_front {data : Bytes} {stop : Nat} (enough : stop ≤ data.length) :
    between data 0 stop = .ok (data.take stop) :=
  between_eq (Nat.zero_le stop) enough

theorem between_back {data : Bytes} {start : Nat} (enough : start ≤ data.length) :
    between data start data.length = .ok (data.drop start) := by
  rw [between_eq enough (Nat.le_refl _), ← List.length_drop, List.take_length]

theorem between?_eq_slice? (data : Bytes) (start needed : Nat) :
    between? data start (start + needed) = data.slice? start needed := by
  simp [between?, Bytes.slice?]

example : between [1, 2, 3] 1 3 = .ok [2, 3] := rfl
example : between [1, 2, 3] 1 4 = trap (.outside 1 4 3) := rfl

/-- The `needed` bytes at `offset`, if there is an address past them and they are there. -/
def window? (data : Bytes) (offset needed : Nat) : Option Bytes :=
  (advance? offset needed).bind (between? data offset)

/-- In a buffer that can be addressed, no slice is lost for want of addresses. -/
theorem window?_eq_slice? {data : Bytes} {offset needed : Nat}
    (small : data.length < addressLimit ∨ offset + needed < addressLimit) :
    window? data offset needed = data.slice? offset needed := by
  unfold window? advance?
  split
  · rw [Option.bind_some, between?_eq_slice?]
  · have short : data.length < offset + needed := by omega
    rw [Option.bind_none, Bytes.slice?_eq_none_iff.mpr short]

theorem add_le_of_window? {data piece : Bytes} {offset needed : Nat}
    (present : window? data offset needed = some piece) : offset + needed ≤ data.length := by
  obtain ⟨stop, moved, taken⟩ := Option.bind_eq_some_iff.mp present
  obtain ⟨rfl, _⟩ := advance?_eq_some_iff.mp moved
  rw [between?_eq_slice?] at taken
  exact (Bytes.slice?_eq_some_iff.mp taken).1

/-- The bytes of a region, or the report that they are not all there. -/
def read (region : Region) (data : Bytes) (offset needed : Nat) : Trapping Bytes :=
  match window? data offset needed with
  | some piece => .ok piece
  | none => refuse (.truncated region offset needed data.length)

theorem read_eq {region : Region} {data : Bytes} {offset needed : Nat}
    (small : data.length < addressLimit ∨ offset + needed < addressLimit) :
    read region data offset needed = settled (region.read data offset needed) := by
  rw [read, window?_eq_slice? small, Region.read]
  cases data.slice? offset needed <;> rfl

/-! ## Fields -/

/-- The bytes of a field of fixed width. -/
def filled (width : Nat) (bytes : Bytes) : Trapping Bytes :=
  if bytes.length = width then .ok bytes else trap (.misfit width bytes.length)

theorem filled_eq {width : Nat} {bytes : Bytes} (same : bytes.length = width) :
    filled width bytes = .ok bytes := if_pos same

/-- The number that the first `width` bytes spell. -/
def number (width : Nat) (bytes : Bytes) : Trapping Nat := do
  let front ← between bytes 0 width
  pure (Bytes.bigEndian front)

theorem number_eq {width : Nat} {bytes : Bytes} (same : bytes.length = width) :
    number width bytes = .ok (Bytes.bigEndian bytes) := by
  subst same
  rw [number, between_front (Nat.le_refl _), List.take_length]
  rfl

/-- The tag that four bytes spell. -/
def tag (bytes : Bytes) : Trapping Tag := do
  let bytes ← filled 4 bytes
  pure (Tag.ofBytes bytes)

theorem tag_eq {bytes : Bytes} (same : bytes.length = 4) : tag bytes = .ok (Tag.ofBytes bytes) := by
  rw [tag, filled_eq same]
  rfl

end Trapping
end StoryBundle
