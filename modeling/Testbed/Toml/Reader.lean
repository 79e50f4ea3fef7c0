import Testbed.Toml.Scalar
import Testbed.Toml.Tree

/-!
# Reading a TOML document

`Document.read?` reads a whole text as a table, or not at all. Lines are keys with values,
headings `[a.b]` of tables and headings `[[a.b]]` of tables in an array.
-/

namespace Testbed.Toml

/-! ## Values -/

mutual

/-- A value, and the rest. `depth` is how many more arrays and tables may be opened. -/
def value? (depth : Nat) : Nat → List Char → Option (Value × List Char)
  | 0, _ => none
  | fuel + 1, cs =>
    match cs with
    | '"' :: _ | '\'' :: _ => (string? cs).map fun p => (.string (String.ofList p.1), p.2)
    | '[' :: rest =>
      match depth with
      | 0 => none
      | depth + 1 => (items? depth fuel rest).map fun p => (.array p.1, p.2)
    | '{' :: rest =>
      match depth with
      | 0 => none
      | depth + 1 =>
        match skipSpace rest with
        | '}' :: after => some (.table [], after)
        | here => do
          let (fields, after) ← pairs? depth fuel [] here
          some (.table (Node.closeFields fields), after)
    | _ => scalar? cs

/-- The items of an array after its opening bracket. -/
def items? (depth : Nat) : Nat → List Char → Option (List Value × List Char)
  | 0, _ => none
  | fuel + 1, cs => do
    match ← skipLines cs.length cs with
    | ']' :: after => some ([], after)
    | here =>
      let (v, rest) ← value? depth fuel here
      match ← skipLines rest.length rest with
      | ',' :: more =>
        let (vs, after) ← items? depth fuel more
        some (v :: vs, after)
      | ']' :: after => some ([v], after)
      | _ => none

/-- The pairs of a table on one line, added to the fields before them. -/
def pairs? (depth : Nat) : Nat → Node.Fields → List Char → Option (Node.Fields × List Char)
  | 0, _, _ => none
  | fuel + 1, fields, cs => do
    let (names, rest) ← key? cs
    match rest with
    | '=' :: rest =>
      let (v, rest) ← value? depth fuel (skipSpace rest)
      let name ← names.getLast?
      let fields ← Node.addValue names.dropLast name v .defined fields
      match skipSpace rest with
      | ',' :: more => pairs? depth fuel fields more
      | '}' :: after => some (fields, after)
      | _ => none
    | _ => none

end

/-! ## Lines -/

/-- What follows the end of a line: space, a comment and a line end, or the end of the text. -/
def finishLine? (cs : List Char) : Option (List Char) :=
  match skipComment (skipSpace cs) with
  | [] => some []
  | here => lineEnd? here

/-- A document while its lines are read: all its fields, and the path of the heading that the
next keys stand under. -/
structure Draft where
  /-- The fields so far. -/
  fields : Node.Fields := []
  /-- The heading in force; empty before the first. -/
  heading : List String := []

/-- Add a key with a value under the heading in force. -/
def Draft.add (d : Draft) (names : List String) (v : Value) : Option Draft := do
  let name ← names.getLast?
  let fields ← Node.descend false
    (fun _ inner => Node.addValue names.dropLast name v .defined inner) d.heading .defined d.fields
  some { d with fields := fields }

/-- A heading without its closing brackets, and the rest. -/
def heading? (cs : List Char) : Option (List String × String × List Char) := do
  let (names, rest) ← key? cs
  let name ← names.getLast?
  some (names.dropLast, name, rest)

/-- One line that is not blank: what it makes of the document, and the rest. -/
def line? (d : Draft) (cs : List Char) : Option (Draft × List Char) :=
  match cs with
  | '[' :: '[' :: rest => do
    let (path, name, rest) ← heading? rest
    match rest with
    | ']' :: ']' :: rest =>
      let fields ← Node.openElement path name d.fields
      some (⟨fields, path ++ [name]⟩, ← finishLine? rest)
    | _ => none
  | '[' :: rest => do
    let (path, name, rest) ← heading? rest
    match rest with
    | ']' :: rest =>
      let fields ← Node.openTable path name d.fields
      some (⟨fields, path ++ [name]⟩, ← finishLine? rest)
    | _ => none
  | _ => do
    let (names, rest) ← key? cs
    match rest with
    | '=' :: rest =>
      let (v, rest) ← value? (nestingLimit - 1) (2 * rest.length + 2) (skipSpace rest)
      some (← d.add names v, ← finishLine? rest)
    | _ => none

/-- All lines of a document, at most `fuel` of them. -/
def lines? : Nat → Draft → List Char → Option Draft
  | 0, d, cs => if cs.isEmpty then some d else none
  | fuel + 1, d, cs => do
    match ← skipLines cs.length cs with
    | [] => some d
    | here =>
      let (d, rest) ← line? d here
      lines? fuel d rest

/-- Read a text as a document. A byte order mark in front does not count. -/
def Document.read? (text : String) : Option Table := do
  let cs := text.toList
  let cs := if cs.head? = some '\ufeff' then cs.drop 1 else cs
  let d ← lines? (cs.length + 1) {} cs
  some (Node.closeFields d.fields)

end Testbed.Toml
