/-!
# Repeated items

Two items count as the same when their keys are equal. `firstOfEach` keeps the first item of each
key, and `repeats` lists the others with their positions.
-/

namespace StoryBundle

variable {α κ : Type} [DecidableEq κ]

/-- The items whose key was not seen before. -/
def firstOfEachAfter (key : α → κ) : List κ → List α → List α
  | _, [] => []
  | seen, item :: rest =>
    if key item ∈ seen then firstOfEachAfter key seen rest
    else item :: firstOfEachAfter key (key item :: seen) rest

/-- The first item of each key, in the order of the list. -/
def firstOfEach (key : α → κ) (items : List α) : List α := firstOfEachAfter key [] items

/-- The items whose key was seen before, with their positions counted from `position`. -/
def repeatsAfter (key : α → κ) : Nat → List κ → List α → List (Nat × α)
  | _, _, [] => []
  | position, seen, item :: rest =>
    if key item ∈ seen then (position, item) :: repeatsAfter key (position + 1) seen rest
    else repeatsAfter key (position + 1) (key item :: seen) rest

/-- The items that have an earlier item's key, with their positions in ascending order. -/
def repeats (key : α → κ) (items : List α) : List (Nat × α) := repeatsAfter key 0 [] items

end StoryBundle
