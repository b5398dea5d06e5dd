import StoryBundle.FileSystem.Basic

/-!
# Snapshots of a file system

What was seen at some paths. A path at which nobody looked counts as absent.
-/

namespace StoryBundle

/-- What stands at a path. -/
structure Sight where
  isFile : Bool
  content : Except AccessError Bytes

structure Snapshot where
  sights : List (Path × Sight)
  /-- What was come by below the directory that was walked. -/
  visits : List (Except AccessError Visit)

namespace Snapshot

def fileSystem (snapshot : Snapshot) : FileSystem where
  isFile path := (snapshot.sights.lookup path).any Sight.isFile
  read path :=
    match snapshot.sights.lookup path with
    | some sight => sight.content
    | none => .error .notFound
  walk _ := snapshot.visits

/-- Two snapshots together, of which the first counts where both have looked. -/
def and (first second : Snapshot) : Snapshot :=
  ⟨first.sights ++ second.sights, first.visits ++ second.visits⟩

end Snapshot
end StoryBundle
