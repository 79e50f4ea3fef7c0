import Testbed.Files.Tree

/-!
# Locks

A lock is a file that one holder at a time has locked. It is made, with the directories it lies
in, by whoever first asks for it, and stays when the lock is given back.
-/

namespace Testbed

/-- Why a lock was not taken. -/
inductive LockError
  | file (e : FileError)
  /-- Somebody holds it. -/
  | held (path : String)
  deriving DecidableEq

/-- The text of a lock error. -/
def LockError.message : LockError → String
  | file e => s!"I/O error: {e.message}"
  | held path => s!"state is locked: {path} is held by another kubetester process"

/-- A lock that is held. -/
structure Lock where
  /-- The path it was asked for by. -/
  path : String
  /-- Where its file lies. -/
  place : Place
  deriving DecidableEq

namespace Lock

/-- Open a lock's file, making it if there is none. -/
def openFile (t : FileTree) (path : String) : Except FileError (FileTree × Place) := do
  let t ← (Path.directory? path).elim (.ok t) t.makeDirectories
  t.openFile path FileTree.publicMode

/-- Take a lock unless its file is among those that are held. The file is made even then. -/
def acquire (held : List Place) (t : FileTree) (path : String) :
    Except LockError Lock × FileTree :=
  match openFile t path with
  | .error e => (.error (.file e), t)
  | .ok (t, place) => (if place ∈ held then .error (.held path) else .ok ⟨path, place⟩, t)

end Lock

end Testbed
