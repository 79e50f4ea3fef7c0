import Testbed.Files.Tree

/-!
# Changes to files

What distinguishes two trees of files, as writes and removals that lead from one to the other.
-/

namespace Testbed.FileTree

/-- A tree in which nothing lies but a directory, given by its path from the root, which is
current. -/
def startingIn (path : String) : FileTree :=
  let t : FileTree := { empty with current := [] }
  match t.makeDirectories path with
  | .ok t => { t with current := (t.locate path).toOption.getD [] }
  | .error _ => t

/-- The bytes of the file at a place. -/
def bytesAt (t : FileTree) (p : Place) : Option ByteArray :=
  match t.get? p with
  | some (.file content _) => some content
  | _ => none

/-- The paths of files whose bytes are new or not the same in `after`, with the new bytes, and of
files that it no longer has. -/
def changes (before after : FileTree) : List (String × Option ByteArray) :=
  let places := (before.entries ++ after.entries).map (·.1)
  let bytes (t : FileTree) (p : Place) := (t.bytesAt p).map (·.data)
  (places.eraseDups.filter fun p => bytes before p ≠ bytes after p).map fun p =>
    (pathOf p, after.bytesAt p)

end Testbed.FileTree
