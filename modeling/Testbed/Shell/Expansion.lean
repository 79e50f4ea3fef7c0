import Testbed.Shell.Machine
import Testbed.Shell.Pattern
import Testbed.Shell.Token

/-!
# From words to fields

A word is expanded to pieces, and the pieces make up fields: blanks divide what came out of an
expansion, and a field that holds a pattern stands for the files that fit it.
-/

namespace Testbed.Shell

/-! ## Pieces -/

/-- A piece of an expanded word. -/
inductive Piece
  /-- A quoted text. -/
  | quoted (s : String)
  /-- A text that stands in the script without quotes. -/
  | literal (s : String)
  /-- A text that blanks divide. -/
  | divided (s : String)
  /-- The end of one field and the start of the next. -/
  | boundary

/-- A field: its characters, and whether they may have a meaning in a pattern. -/
abbrev Field := List Marked

/-- A text as part of a field. -/
def marked (active : Bool) (s : String) : Field := s.toList.map fun c => (c, active)

/-- Whether a character divides fields. -/
def isSeparator (c : Char) : Bool := c = ' ' || c = '\t' || c = '\n'

/-- Fields while pieces are put together. -/
structure Fields where
  /-- The fields that are complete, last first. -/
  done : List Field := []
  /-- The field under way, last character first. -/
  current : Option Field := none

namespace Fields

/-- Complete the field under way. -/
def cut (f : Fields) : Fields :=
  match f.current with
  | some c => ⟨c.reverse :: f.done, none⟩
  | none => f

/-- Go on with the field under way, or begin one. -/
def extend (f : Fields) (s : Field) : Fields :=
  { f with current := some (s.reverse ++ f.current.getD []) }

/-- Add a piece. -/
def add (f : Fields) : Piece → Fields
  | .quoted s => f.extend (marked false s)
  | .literal s => f.extend (marked true s)
  | .boundary => (f.extend []).cut
  | .divided s => s.toList.foldl
      (fun f c => if isSeparator c then f.cut else f.extend [(c, true)]) f

end Fields

/-- The fields that pieces make up. -/
def fieldsOf (pieces : List Piece) : List Field :=
  (pieces.foldl Fields.add {}).cut.done.reverse

/-- The text of pieces that are not divided. -/
def joined (pieces : List Piece) : String :=
  String.join (pieces.map fun
    | .quoted s | .literal s | .divided s => s
    | .boundary => " ")

/-- The characters of pieces that are not divided. -/
def joinedMarked (pieces : List Piece) : List Marked :=
  pieces.flatMap fun
    | .quoted s => marked false s
    | .literal s | .divided s => marked true s
    | .boundary => marked false " "

/-- A text without the line ends it ends with. -/
def dropLineEnds (cs : List Char) : List Char := (cs.reverse.dropWhile (· = '\n')).reverse

/-! ## Values -/

/-- The value of a variable or of a special name. -/
def valueOf? (name : String) (m : Machine) : Option String :=
  let p := m.process
  match name with
  | "?" => some (toString p.status)
  | "$" => some (toString p.number)
  | "!" => p.job.map fun (n : Nat) => toString n
  | "#" => some (toString p.arguments.length)
  | "0" => some p.scriptName
  | "@" | "*" => some (" ".intercalate p.arguments)
  | "-" => some (String.ofList p.options)
  | name =>
    match name.toNat? with
    | some n => p.arguments[n - 1]?
    | none => m.setting? name

/-- The names that always have a value. -/
def alwaysSet : List String := ["?", "$", "#", "0", "@", "*", "-", "!"]

/-- The word that a modifier holds. -/
def modifierWord (quoted : Bool) (text : String) : Word :=
  let cs := text.toList
  match (if quoted then quotedText .absent (cs.length + 1) [] cs
      else (readWord (cs.length + 1) [] cs).map fun r => (r.1.reverse, r.2)) with
  | .ok (w, rest) => w.reverse ++ (if rest.isEmpty then [] else [.text true (String.ofList rest)])
  | .error _ => [.text true text]

/-- The pieces of the arguments. -/
def argumentPieces (quoted : Bool) (arguments : List String) : List Piece :=
  (arguments.map fun a => if quoted then Piece.quoted a else .divided a).intersperse .boundary

/-- Whether a word is all arguments, so that without arguments it gives no field. -/
def isArguments (w : Word) : Bool :=
  w = [.text true "", .value true "@" .plain] || w = [.value false "@" .plain]

/-! ## Files -/

/-- The names in a directory, in order. -/
def namesIn (t : FileTree) (here : Place) : List String :=
  let names := t.entries.filterMap fun e =>
    if e.1.length = here.length + 1 && here.isPrefixOf e.1 then e.1.getLast? else none
  names.mergeSort fun a b => decide (a ≤ b)

/-- The parts of a field between slashes. -/
def partsOf (f : Field) : List Field :=
  let (done, current) := f.foldl
    (fun (done, current) c =>
      if c.1 = '/' then (current.reverse :: done, []) else (done, c :: current))
    (([], []) : List Field × Field)
  (current.reverse :: done).reverse

/-- The text of a field. -/
def Field.text (f : Field) : String := String.ofList (f.map (·.1))

/-- The names of a directory that fit a pattern; hidden ones only if the pattern says so. -/
def fitting (names : List String) (part : Field) : List String :=
  let pattern := Glob.ofMarked part
  names.filter fun name =>
    (name.toList.head? ≠ some '.' || (part.head?.map (·.1)) = some '.')
      && Glob.fits pattern name.toList

/-- The paths that parts lead to from a path that ends with a slash or is empty. -/
def pathsFrom (t : FileTree) (base : String) : List Field → List String
  | [] => [base]
  | part :: rest =>
    let directory := if base.isEmpty then "." else base
    let names :=
      if part.any Glob.isActive then
        match t.locate directory with
        | .ok here => if t.isDirectoryAt here then fitting (namesIn t here) part else []
        | .error _ => []
      else [Field.text part]
    names.flatMap fun name =>
      let path := base ++ name
      if rest.isEmpty then (if path.isEmpty || t.exists? path then [path] else [])
      else pathsFrom t (path ++ "/") rest

/-- The texts that a field stands for: the files that fit it, or itself. -/
def Field.expand (t : FileTree) (f : Field) : List String :=
  if f.any Glob.isActive then
    match pathsFrom t "" (partsOf f) with
    | [] => [f.text]
    | paths => paths
  else [f.text]

end Testbed.Shell
