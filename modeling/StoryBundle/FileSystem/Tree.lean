import StoryBundle.FileSystem.Basic

/-!
# File trees held in memory

A tree lists its directories and files by the names that lead to them from the top. A path is
followed name by name, and each step but the last must end in a directory.
-/

namespace StoryBundle

/-- The names that lead from the top of a tree to one of its nodes. -/
abbrev Place := List Bytes

inductive Node where
  | directory
  | file (content : Bytes)
deriving DecidableEq, Repr

structure Tree where
  nodes : List (Place × Node)
deriving DecidableEq, Repr

namespace Tree

open Component (dot)

/-- A tree that holds nothing but its top directory. -/
def empty : Tree := ⟨[]⟩

/-- The longest name of a file, in bytes. -/
def longestName : Nat := 255

/-- The longest path, in bytes. -/
def longestPath : Nat := 4095

def node? (tree : Tree) (place : Place) : Option Node :=
  if place = [] then some .directory else tree.nodes.lookup place

/-- Puts one node in its place, instead of what was there. -/
def set (tree : Tree) (place : Place) (node : Node) : Tree :=
  ⟨(place, node) :: tree.nodes.filter (·.1 != place)⟩

/-- A directory is made only where there is nothing yet. -/
def makeDirectory (tree : Tree) (place : Place) : Tree :=
  if (tree.node? place).isSome then tree else tree.set place .directory

/-- Takes a node away with everything below it. -/
def remove (tree : Tree) (place : Place) : Tree :=
  ⟨tree.nodes.filter fun (other, _) => !place.isPrefixOf other⟩

/-- One step from a place. -/
def step (tree : Tree) (at_ : Place) (segment : Bytes) : Except AccessError Place :=
  if tree.node? at_ ≠ some .directory then .error .notADirectory
  else if segment = [dot] then .ok at_
  else if segment = [dot, dot] then .ok at_.dropLast
  else if segment.length > longestName then .error .nameTooLong
  else if (tree.node? (at_ ++ [segment])).isSome then .ok (at_ ++ [segment])
  else .error .notFound

/-- The steps of a path. A slash at the end asks for a directory, as a last dot does. -/
def steps (path : Path) : List Bytes :=
  let named := path.segments.filter (· != [])
  if path.segments.getLast? = some [] then named ++ [[dot]] else named

/-- Where the steps of a path start. -/
def start (working : Place) (path : Path) : Place := if path.isAbsolute then [] else working

/-- The place that a path leads to from a working directory. -/
def resolve (tree : Tree) (working : Place) (path : Path) : Except AccessError Place :=
  if path.bytes.contains 0 then .error .nulInName
  else if path.bytes = [] then .error .notFound
  else if path.bytes.length > longestPath then .error .nameTooLong
  else (steps path).foldlM tree.step (start working path)

/-- The node that a path leads to. -/
def lookup (tree : Tree) (working : Place) (path : Path) : Except AccessError Node := do
  let place ← tree.resolve working path
  match tree.node? place with
  | some node => .ok node
  | none => .error .notFound

def isFile (tree : Tree) (working : Place) (path : Path) : Bool :=
  match tree.lookup working path with
  | .ok (.file _) => true
  | _ => false

def read (tree : Tree) (working : Place) (path : Path) : Except AccessError Bytes := do
  match ← tree.lookup working path with
  | .file content => .ok content
  | .directory => .error .isADirectory

/-- What a walk from a path comes by at a node which some names lead to from there. A directory
whose own path is too long cannot be entered. -/
def visits (path : Path) (names : Place) (node : Node) : List (Except AccessError Visit) :=
  let reached (names : Place) : Path := (names.map Path.mk).foldl Path.join path
  if (reached names.dropLast).bytes.length > longestPath then []
  else match node with
    | .file _ => [.ok ⟨reached names, .file⟩]
    | .directory =>
      let entered := (reached names).bytes.length ≤ longestPath
      .ok ⟨reached names, .directory⟩ :: if entered then [] else [.error .nameTooLong]

def walk (tree : Tree) (working : Place) (path : Path) : List (Except AccessError Visit) :=
  match tree.resolve working path with
  | .error cause => [.error cause]
  | .ok top =>
    let below := tree.nodes.filter fun (place, _) => place ≠ top ∧ top.isPrefixOf place
    ((tree.node? top).map (visits path [])).getD [] ++
      below.flatMap fun (place, node) => visits path (place.drop top.length) node

/-- One step from a place. A directory is made where the step finds nothing. -/
def makeStep : Tree × Place → Bytes → Tree × Place
  | (tree, place), segment =>
    if segment = [dot] then (tree, place)
    else if segment = [dot, dot] then (tree, place.dropLast)
    else (tree.makeDirectory (place ++ [segment]), place ++ [segment])

/-- Makes the directories that are missing along a path. The place is where the path leads then. -/
def makePath (tree : Tree) (working : Place) (path : Path) : Tree × Place :=
  (steps path).foldl makeStep (tree, start working path)

/-- Writes a file and makes the directories that are missing on the way to it. A path that ends in
dots or a slash names no file. -/
def write (tree : Tree) (working : Place) (path : Path) (content : Bytes) : Tree :=
  let (tree, above) := (steps path).dropLast.foldl makeStep (tree, start working path)
  match (steps path).getLast? with
  | none => tree
  | some name =>
    if name = [dot] ∨ name = [dot, dot] then tree else tree.set (above ++ [name]) (.file content)

/-- Takes away what a path leads to, with everything below it. -/
def erase (tree : Tree) (working : Place) (path : Path) : Tree :=
  match tree.resolve working path with
  | .ok place => tree.remove place
  | .error _ => tree

/-- The tree as a program sees it from a working directory. -/
def fileSystem (tree : Tree) (working : Place) : FileSystem where
  isFile := tree.isFile working
  read := tree.read working
  walk := tree.walk working

end Tree
end StoryBundle
