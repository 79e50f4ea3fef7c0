import Testbed.Files.Tree
import Testbed.State.Layout
import Testbed.State.Text

/-!
# Keeping the state document in a file

A document is saved by writing it under a fresh name beside its file, which it then replaces in
one step. `SaveStep` lists what a save does, so that a save can be stopped at any step; loading
accepts a document only under its own seal.
-/

namespace Testbed

/-- Why a state document could not be loaded or saved. -/
inductive StoreError
  | file (e : FileError)
  /-- The seal is not that of the document. -/
  | integrity (path expected actual : String)
  /-- The document has no seal. -/
  | missingChecksum (path : String)
  | versionMismatch (found : Nat)
  /-- The text is not a document. -/
  | unreadable (e : Json.Failure)
  deriving DecidableEq

/-- The text of a failure to read JSON. -/
def Json.Failure.message : Json.Failure → String
  | malformed => "the text is not well-formed"
  | unfinished => "the text ends too early"
  | misfit m => m.message

/-- The text of a store error. -/
def StoreError.message : StoreError → String
  | file e => s!"I/O error: {e.message}"
  | integrity path expected actual =>
    s!"state document '{path}' failed integrity check: expected {expected}, got {actual}"
  | missingChecksum path => s!"state document '{path}' has no checksum"
  | versionMismatch found =>
    s!"state format version mismatch: expected {stateFormatVersion}, found {found}"
  | unreadable e => s!"serialization error: {e.message}"

namespace StateDocument

/-- Accept the text of a state file: a document of this version under its own seal. -/
def accept (path text : String) : Except StoreError StateDocument := do
  let d ← (parse text).mapError .unreadable
  if d.version ≠ stateFormatVersion then .error (.versionMismatch d.version)
  else
    match d.checksum with
    | none => .error (.missingChecksum path)
    | some expected =>
      if d.digest = expected then .ok d
      else .error (.integrity path expected d.digest)

end StateDocument

/-! ## Saving -/

/-- What a save does, in this order. -/
inductive SaveStep
  | makeDirectory | makeTemporary | write | flush | replace | flushDirectory
  deriving DecidableEq

namespace SaveStep

/-- All steps of a save. -/
def all : List SaveStep := [makeDirectory, makeTemporary, write, flush, replace, flushDirectory]

end SaveStep

/-- A save under way: the files, and the fresh file while it has not replaced the old one. -/
structure Saving where
  /-- The files so far. -/
  tree : FileTree
  /-- Where the fresh file lies. -/
  temporary : Option Place := none

/-- Where an environment's document is kept. -/
structure FileStore where
  /-- The layout of its directory. -/
  layout : Layout
  /-- The name of the environment. -/
  name : String

namespace FileStore

/-- The path of the document. -/
def path (s : FileStore) : String := s.layout.stateFile s.name

/-- Take one step of a save. -/
def step (s : FileStore) (content : ByteArray) (v : Saving) : SaveStep → Except FileError Saving
  | .makeDirectory => do
    .ok { v with tree := ← v.tree.makeDirectories (s.layout.directory s.name) }
  | .makeTemporary => do
    let (tree, p) ← v.tree.makeTemporary (s.layout.directory s.name)
    .ok ⟨tree, some p⟩
  | .write => .ok { v with tree := v.temporary.elim v.tree fun p => v.tree.fill p content }
  | .flush => .ok v
  | .replace =>
    match v.temporary with
    | some p => do .ok ⟨← v.tree.rename p s.path, none⟩
    | none => .ok v
  | .flushDirectory => .ok v

/-- Take steps until one fails; what the steps before it did stays. -/
def run (s : FileStore) (content : ByteArray) : List SaveStep → Saving → Option FileError × Saving
  | [], v => (none, v)
  | next :: steps, v =>
    match s.step content v next with
    | .ok v => s.run content steps v
    | .error e => (some e, v)

/-- The files after a save ended: a fresh file that replaced nothing is removed. -/
def Saving.settle (v : Saving) : FileTree := v.temporary.elim v.tree v.tree.erase

/-- Save a document under its own seal. -/
def save (s : FileStore) (d : StateDocument) (t : FileTree) : Except StoreError Unit × FileTree :=
  match s.run d.sealed.text.toUTF8 SaveStep.all ⟨t, none⟩ with
  | (none, v) => (.ok (), Saving.settle v)
  | (some e, v) => (.error (.file e), Saving.settle v)

/-- Load the document, if there is one. -/
def load (s : FileStore) (t : FileTree) : Except StoreError (Option StateDocument) :=
  if !t.exists? s.path then .ok none
  else do
    let text ← (t.readText s.path).mapError .file
    .ok (some (← StateDocument.accept s.path text))

end FileStore

end Testbed
