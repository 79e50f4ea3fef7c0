import Testbed.Files.Error
import Testbed.Files.Path
import Testbed.Text.Utf8

/-!
# A tree of files

A `FileTree` holds directories and files under a root, and the directory that relative paths
start from. The operations fail as the system's do: a path is followed name by name, and the
first name that cannot be followed decides the failure. There are no symbolic links, and
directories have no permissions: all of them can be entered, read and changed.
-/

namespace Testbed

/-- Where an entry lies: the names from the root down. -/
abbrev Place := List String

/-- What can lie at a place. -/
inductive Entry
  | directory
  | file (content : ByteArray) (mode : Nat)
  /-- A device that takes everything and gives nothing. -/
  | sink

/-- Files and directories, and the directory that is current. -/
structure FileTree where
  /-- All entries but the root. -/
  entries : List (Place × Entry)
  /-- Where relative paths start. -/
  current : Place

namespace FileTree

/-- The mode of a new file that is open to reading by everyone. -/
def publicMode : Nat := 0o644

/-- The mode of a new file that is for its owner alone. -/
def privateMode : Nat := 0o600

/-- A tree with an empty current directory. -/
def empty : FileTree where
  entries :=
    [(["dev"], .directory), (["dev", "null"], .sink), (["tmp"], .directory),
     (["work"], .directory)]
  current := ["work"]

/-- The path of a place from the root. -/
def pathOf (p : Place) : String := "/" ++ "/".intercalate p

/-! ## Entries -/

/-- What lies at a place. -/
def get? (t : FileTree) (p : Place) : Option Entry :=
  if p = [] then some .directory
  else (t.entries.find? fun e => e.1 = p).map (·.2)

/-- Put an entry at a place. -/
def put (t : FileTree) (p : Place) (e : Entry) : FileTree :=
  { t with entries := (t.entries.filter fun x => x.1 ≠ p) ++ [(p, e)] }

/-- Take the entry at a place away. -/
def erase (t : FileTree) (p : Place) : FileTree :=
  { t with entries := t.entries.filter fun x => x.1 ≠ p }

/-- Whether a directory lies at a place. -/
def isDirectoryAt (t : FileTree) (p : Place) : Bool :=
  match t.get? p with
  | some .directory => true
  | _ => false

/-! ## Following paths -/

/-- Follow one name from a place. -/
def follow (t : FileTree) (here : Place) (name : String) : Except FileError Place :=
  if !t.isDirectoryAt here then .error .notDirectory
  else if name = "" ∨ name = "." then .ok here
  else if name = ".." then .ok here.dropLast
  else if 255 < name.utf8ByteSize then .error .nameTooLong
  else if (t.get? (here ++ [name])).isSome then .ok (here ++ [name])
  else .error .notFound

/-- What makes a path unfit for any operation. -/
def checkPath (path : String) : Except FileError Unit :=
  if path.toList.contains '\x00' then .error .nulInPath
  else if path.isEmpty then .error .notFound
  else if 4096 ≤ path.utf8ByteSize then .error .nameTooLong
  else .ok ()

/-- Where a path starts. -/
def origin (t : FileTree) (path : String) : Place := if Path.isAbsolute path then [] else t.current

/-- The place that a path leads to. -/
def locate (t : FileTree) (path : String) : Except FileError Place := do
  checkPath path
  (Path.segments path).foldlM t.follow (t.origin path)

/-- Whether a path leads to anything. -/
def exists? (t : FileTree) (path : String) : Bool := (t.locate path).toBool

/-- Whether a path leads to a directory. -/
def isDirectory (t : FileTree) (path : String) : Bool :=
  match t.locate path with
  | .ok p => t.isDirectoryAt p
  | .error _ => false

/-- Where a path would put a new entry: the directory, the name, and whether slashes follow the
name. No name for the root. -/
def target (t : FileTree) (path : String) : Except FileError (Place × Option String × Bool) := do
  checkPath path
  let parts := (Path.segments path).reverse
  match parts.dropWhile (·.isEmpty) with
  | [] => .ok ([], none, true)
  | name :: rest =>
    let here ← rest.reverse.foldlM t.follow (t.origin path)
    if !t.isDirectoryAt here then .error .notDirectory
    else if 255 < name.utf8ByteSize then .error .nameTooLong
    else .ok (here, some name, parts.head? = some "")

/-- Whether a name is one of the two that every directory has. -/
def isDots (name : String) : Bool := name = "." || name = ".."

/-! ## Directories -/

/-- Make one directory. -/
def makeDirectory (t : FileTree) (path : String) : Except FileError FileTree := do
  match ← t.target path with
  | (_, none, _) => .error .alreadyExists
  | (here, some name, _) =>
    if isDots name || (t.get? (here ++ [name])).isSome then .error .alreadyExists
    else .ok (t.put (here ++ [name]) .directory)

/-- Make a directory if there is none; another kind of entry in its place is a failure. -/
def ensureDirectory (t : FileTree) (path : String) : Except FileError FileTree :=
  match t.makeDirectory path with
  | .ok t => .ok t
  | .error e => if t.isDirectory path then .ok t else .error e

/-- Make a directory with those it lies in, at most `fuel` of them. -/
def makeDirectoriesFrom (t : FileTree) : Nat → String → Except FileError FileTree
  | 0, path => t.ensureDirectory path
  | fuel + 1, path =>
    if path.isEmpty then .ok t else
    match t.makeDirectory path with
    | .ok t => .ok t
    | .error .notFound => do
      match Path.parent? path with
      | some p => (← t.makeDirectoriesFrom fuel p).ensureDirectory path
      | none => .error .notFound
    | .error e => if t.isDirectory path then .ok t else .error e

/-- Make a directory with those it lies in. -/
def makeDirectories (t : FileTree) (path : String) : Except FileError FileTree :=
  t.makeDirectoriesFrom path.length path

/-! ## Files -/

/-- The bytes of a file. -/
def read (t : FileTree) (path : String) : Except FileError ByteArray := do
  match t.get? (← t.locate path) with
  | some (.file content _) => .ok content
  | some .sink => .ok .empty
  | some .directory => .error .isDirectory
  | none => .error .notFound

/-- The text of a file. -/
def readText (t : FileTree) (path : String) : Except FileError String := do
  match String.fromUTF8? (← t.read path) with
  | some s => .ok s
  | none => .error .notText

/-- Open a file to write to it, with the mode that it gets if it is new. -/
def openFile (t : FileTree) (path : String) (mode : Nat) : Except FileError (FileTree × Place) := do
  match ← t.target path with
  | (_, none, _) => .error .isDirectory
  | (here, some name, slash) =>
    if slash || isDots name then .error .isDirectory
    else
      let p := here ++ [name]
      match t.get? p with
      | some .directory => .error .isDirectory
      | some _ => .ok (t, p)
      | none => .ok (t.put p (.file .empty mode), p)

/-- The mode of a file. -/
def modeAt (t : FileTree) (p : Place) : Nat :=
  match t.get? p with
  | some (.file _ mode) => mode
  | _ => 0

/-- Replace the bytes of an open file. -/
def fill (t : FileTree) (p : Place) (content : ByteArray) : FileTree :=
  match t.get? p with
  | some (.file _ mode) => t.put p (.file content mode)
  | _ => t

/-- Write a whole file; one that exists keeps its mode. -/
def write (t : FileTree) (path : String) (content : ByteArray) (mode : Nat) :
    Except FileError FileTree := do
  let (t, p) ← t.openFile path mode
  .ok (t.fill p content)

/-- Move the file at a place to where a path leads, in place of a file that may lie there. -/
def rename (t : FileTree) (p : Place) (path : String) : Except FileError FileTree := do
  match ← t.target path with
  | (_, none, _) => .error .isDirectory
  | (here, some name, slash) =>
    let q := here ++ [name]
    if isDots name || t.isDirectoryAt q then .error .isDirectory
    else if slash then .error .notDirectory
    else
      match t.get? p with
      | some e => .ok ((t.erase p).put q e)
      | none => .error .notFound

/-- A name that no entry of a directory has, tried from a number on. -/
def freshName (t : FileTree) (here : Place) : Nat → Nat → String
  | 0, n => s!".tmp{n}"
  | fuel + 1, n =>
    if (t.get? (here ++ [s!".tmp{n}"])).isSome then t.freshName here fuel (n + 1) else s!".tmp{n}"

/-- Make an empty file of a new name in a directory. -/
def makeTemporary (t : FileTree) (directory : String) : Except FileError (FileTree × Place) := do
  let here ← t.locate directory
  if !t.isDirectoryAt here then .error .notDirectory
  else
    let p := here ++ [t.freshName here t.entries.length 0]
    .ok (t.put p (.file .empty privateMode), p)

/-- Add one file with the directories it lies in, or a directory where no content is given;
what cannot be added is left out. -/
def add (t : FileTree) (path : String) (content : Option ByteArray) : FileTree :=
  let grown (r : Except FileError FileTree) (t : FileTree) : FileTree := r.toOption.getD t
  match content with
  | none => grown (t.makeDirectories path) t
  | some bytes =>
    let t := (Path.directory? path).elim t fun d => grown (t.makeDirectories d) t
    grown (t.write path bytes publicMode) t

/-- A tree with the given files and directories in its current directory. -/
def ofFiles (l : List (String × Option ByteArray)) : FileTree :=
  l.foldl (fun t f => t.add f.1 f.2) empty

/-! ## Listing -/

/-- The files below the current directory with their paths from there, in path order. -/
def files (t : FileTree) : List (String × ByteArray) :=
  let below := t.entries.filterMap fun (p, e) =>
    match e with
    | .file content _ =>
      if t.current.isPrefixOf p then some ("/".intercalate (p.drop t.current.length), content)
      else none
    | _ => none
  below.mergeSort fun a b => decide (a.1 ≤ b.1)

end FileTree

end Testbed
