/-!
# Computations that keep a log

A logged computation ends in a value or an error and leaves notes in the order in which they were
made, also when it fails. What it ends in never depends on the notes: `outcome_bind` says that
forgetting them turns a logged sequence into the plain one.
-/

namespace StoryBundle

/-- How much a note matters, the gravest first. -/
inductive Severity where
  | error
  | warn
  | info
  | debug
  | trace
deriving DecidableEq, Repr

namespace Severity

/-- A smaller rank is graver. -/
def rank : Severity → Nat
  | error => 1
  | warn => 2
  | info => 3
  | debug => 4
  | trace => 5

def label : Severity → String
  | error => "ERROR"
  | warn => "WARN"
  | info => "INFO"
  | debug => "DEBUG"
  | trace => "TRACE"

/-- The note is at least as grave as the given severity. -/
def reaches (threshold note : Severity) : Bool := note.rank ≤ threshold.rank

end Severity

/-- The part of the work that a note is about. -/
inductive Topic where
  | container
  | search
  | story
  | settings
  | bundle
deriving DecidableEq, Repr

structure Note where
  severity : Severity
  topic : Topic
  text : String
deriving DecidableEq, Repr

structure Logged (ε α : Type) where
  outcome : Except ε α
  notes : List Note

namespace Logged

variable {ε ε' α β : Type}

/-- The second computation runs only if the first one gives a value. -/
def andThen (first : Logged ε α) (next : α → Logged ε β) : Logged ε β :=
  match first.outcome with
  | .error cause => ⟨.error cause, first.notes⟩
  | .ok value =>
    let second := next value
    ⟨second.outcome, first.notes ++ second.notes⟩

instance : Monad (Logged ε) where
  pure value := ⟨.ok value, []⟩
  bind := andThen

/-- A computation that leaves no note. -/
def quiet (outcome : Except ε α) : Logged ε α := ⟨outcome, []⟩

def fail (cause : ε) : Logged ε α := quiet (.error cause)

/-- Leaves notes and goes on. -/
def tell (notes : List Note) : Logged ε Unit := ⟨.ok (), notes⟩

def note (severity : Severity) (topic : Topic) (text : String) : Logged ε Unit :=
  tell [⟨severity, topic, text⟩]

/-- The same computation with its error put in other terms. -/
def mapError (f : ε → ε') (computation : Logged ε α) : Logged ε' α :=
  ⟨computation.outcome.mapError f, computation.notes⟩

/-- A computation that gave a value goes on with it and keeps its notes. -/
theorem ok_bind (value : α) (notes : List Note) (next : α → Logged ε β) :
    (⟨.ok value, notes⟩ >>= next : Logged ε β) =
      ⟨(next value).outcome, notes ++ (next value).notes⟩ := rfl

@[simp] theorem outcome_pure (value : α) : (pure value : Logged ε α).outcome = .ok value := rfl

@[simp] theorem outcome_bind (first : Logged ε α) (next : α → Logged ε β) :
    (first >>= next).outcome = first.outcome >>= fun value => (next value).outcome := by
  change (andThen first next).outcome = _
  unfold andThen
  cases first.outcome <;> rfl

@[simp] theorem outcome_quiet (outcome : Except ε α) : (quiet outcome).outcome = outcome := rfl

@[simp] theorem outcome_fail (cause : ε) :
    (fail cause : Logged ε α).outcome = .error cause := rfl

@[simp] theorem outcome_tell (notes : List Note) :
    (tell notes : Logged ε Unit).outcome = .ok () := rfl

@[simp] theorem outcome_note (severity : Severity) (topic : Topic) (text : String) :
    (note severity topic text : Logged ε Unit).outcome = .ok () := rfl

@[simp] theorem outcome_mapError (f : ε → ε') (computation : Logged ε α) :
    (computation.mapError f).outcome = computation.outcome.mapError f := rfl

end Logged
end StoryBundle
