import Testbed.State.Store

/-!
# Replacements that break off

A file is replaced step by step, and any step may break off: the system reports a failure, or the
process is killed and nothing is reported. What the step had done by then stays, some of the
directories or some of the bytes. After a failure the replacement still ends in order, and a fresh
file that replaced nothing is removed; a process that was killed leaves it where it is.
-/

namespace Testbed

/-- The path after leaving out its last name so many times, as long as it has one. -/
def Path.ancestor? (path : String) : Nat → Option String
  | 0 => some path
  | n + 1 => (ancestor? path n).bind parent?

/-- The steps that make a fresh file and put it in its place. -/
def SaveStep.placing : List SaveStep := [.makeTemporary, .write, .flush, .replace]

/-- A step that breaks off. -/
structure Break where
  step : SaveStep
  /-- How far the step got: the names at the end of a path whose directories were not reached, or
  the bytes that were written. -/
  extent : Nat
  /-- What the system reported; nothing if the process was killed. -/
  failure : Option FileError

/-- How a replacement ended. -/
inductive Ending
  | done
  | failed (step : SaveStep) (e : FileError)
  /-- The process was killed in a step. -/
  | killed (step : SaveStep)
  deriving DecidableEq

/-- What is left when a replacement has ended. -/
def Ending.leave (v : Saving) : Ending → FileTree
  | killed _ => v.tree
  | done | failed .. => FileStore.Saving.settle v

/-- A file to be replaced. -/
structure Replacement where
  /-- The directory in which the fresh file is made. -/
  directory : String
  /-- The path of the file that it replaces. -/
  path : String
  content : ByteArray

namespace Replacement

/-- Take one step. -/
def step (r : Replacement) (v : Saving) : SaveStep → Except FileError Saving
  | .makeDirectory => do .ok { v with tree := ← v.tree.makeDirectories r.directory }
  | .makeTemporary => do
    let (tree, p) ← v.tree.makeTemporary r.directory
    .ok ⟨tree, some p⟩
  | .write => .ok { v with tree := v.temporary.elim v.tree fun p => v.tree.fill p r.content }
  | .flush => .ok v
  | .replace =>
    match v.temporary with
    | some p => do .ok ⟨← v.tree.rename p r.path, none⟩
    | none => .ok v
  | .flushDirectory => .ok v

/-- What a step has done that breaks off. Files are made and moved at once or not at all. -/
def part (r : Replacement) (extent : Nat) (v : Saving) : SaveStep → Saving
  | .makeDirectory =>
    let made := (Path.ancestor? r.directory extent).bind fun path =>
      (v.tree.makeDirectories path).toOption
    { v with tree := made.getD v.tree }
  | .write =>
    { v with
      tree := v.temporary.elim v.tree fun p => v.tree.fill p (r.content.extract 0 extent) }
  | _ => v

/-- Take steps until one fails or breaks off. -/
def attempt (r : Replacement) (b : Option Break) : List SaveStep → Saving → Ending × Saving
  | [], v => (.done, v)
  | next :: steps, v =>
    match b.filter (·.step = next) with
    | some b => (b.failure.elim (.killed next) (.failed next), r.part b.extent v next)
    | none =>
      match r.step v next with
      | .ok v => r.attempt b steps v
      | .error e => (.failed next e, v)

end Replacement

namespace FileStore

/-- What a save replaces. -/
def replacement (s : FileStore) (d : StateDocument) : Replacement :=
  ⟨s.layout.directory s.name, s.path, d.sealed.text.toUTF8⟩

/-- Save a document under its own seal, unless something breaks off. -/
def saveAmid (s : FileStore) (b : Option Break) (d : StateDocument) (t : FileTree) :
    Ending × FileTree :=
  let (ending, v) := (s.replacement d).attempt b SaveStep.all ⟨t, none⟩
  (ending, ending.leave v)

end FileStore

end Testbed
