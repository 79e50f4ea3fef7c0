import Testbed.Toml.Scan
import Testbed.Toml.Value

/-!
# Writing a TOML document

`Document.write` lays out a table: its own keys first, then its tables in order, each under a
heading after an empty line. Strings take the plainest of the four forms that can hold them.
`Document.write?` refuses a table with an integer that is too large for the format.
-/

namespace Testbed.Toml

/-! ## Strings -/

/-- The length of the longest run of a character. -/
def longestRun (mark : Char) (cs : List Char) : Nat :=
  (cs.foldl (fun (now, most) c =>
    let now := if c = mark then now + 1 else 0
    (now, max now most)) ((0, 0) : Nat × Nat)).2

/-- Whether a character can stand in a string only as an escape. -/
def needsEscape (c : Char) : Bool := c != '\n' && isForbidden c

/-- Four hexadecimal digits, upper case. -/
def hexDigits4 (n : Nat) : List Char :=
  [n / 4096 % 16, n / 256 % 16, n / 16 % 16, n % 16].map fun d => (Nat.digitChar d).toUpper

/-- A character other than a quotation mark in a basic string. -/
def escapeChar (multiline : Bool) (c : Char) : List Char :=
  match c with
  | '\x08' => ['\\', 'b']
  | '\t' => ['\\', 't']
  | '\x0c' => ['\\', 'f']
  | '\r' => ['\\', 'r']
  | '\\' => ['\\', '\\']
  | '\n' => if multiline then ['\n'] else ['\\', 'n']
  | c => if isForbidden c then '\\' :: 'u' :: hexDigits4 c.toNat else [c]

/-- The inside of a basic string, after `run` quotation marks. On one line every mark is escaped,
on several every third of a run. -/
def basicInside (multiline : Bool) : Nat → List Char → List Char
  | _, [] => []
  | run, c :: rest =>
    if c = '"' then
      if multiline && run < 2 then '"' :: basicInside multiline (run + 1) rest
      else '\\' :: '"' :: basicInside multiline 0 rest
    else escapeChar multiline c ++ basicInside multiline 0 rest

/-- The marks around the inside of a string; on several lines the text starts on a new one. -/
def enclose (marks : List Char) (newline : Bool) (inside : List Char) : List Char :=
  marks ++ (if newline then ['\n'] else []) ++ inside ++ marks

/-- A string in the first form that can hold it. -/
def writeString (s : String) : String :=
  let cs := s.toList
  let escapes := cs.any needsEscape
  let backslash := cs.contains '\\'
  let newline := cs.contains '\n'
  let double := longestRun '"' cs
  let single := longestRun '\'' cs
  let basic := enclose ['"'] false (basicInside false 0 cs)
  let multiBasic := enclose ['"', '"', '"'] newline (basicInside true 0 cs)
  String.ofList <|
    if !escapes && !backslash && !newline && double = 0 then basic
    else if !escapes && !newline && single = 0 then enclose ['\''] false cs
    else if !escapes && !backslash && double ≤ 2 then multiBasic
    else if !escapes && single ≤ 2 then enclose ['\'', '\'', '\''] newline cs
    else if newline then multiBasic
    else basic

/-- A name of a key: bare where it can be. -/
def writeName (s : String) : String :=
  let cs := s.toList
  let control := cs.any fun c => c.toNat < 0x20 || c.toNat = 0x7F
  let basic := String.ofList (enclose ['"'] false (basicInside false 0 cs))
  if !cs.isEmpty && cs.all isBareChar then s
  else if !control && !cs.contains '\\' && !cs.contains '"' then basic
  else if !control && !cs.contains '\'' then String.ofList (enclose ['\''] false cs)
  else basic

/-! ## Values and tables -/

mutual

/-- A value on the line of its key; an array of several items has one line for each. -/
def writeValue : Value → String
  | .string s => writeString s
  | .integer n => toString n
  | .float x => x.text
  | .boolean b => toString b
  | .datetime text => text
  | .array items =>
    match items with
    | [] => "[]"
    | [v] => "[" ++ writeValue v ++ "]"
    | items => "[\n" ++ writeItems items ++ "]"
  | .table fields => "\x7b " ++ writePairs fields ++ " \x7d"

/-- Items on lines of their own. -/
def writeItems : List Value → String
  | [] => ""
  | v :: rest => "    " ++ writeValue v ++ ",\n" ++ writeItems rest

/-- The pairs of a table on one line. -/
def writePairs : List (String × Value) → String
  | [] => ""
  | [(name, v)] => writeName name ++ " = " ++ writeValue v
  | (name, v) :: rest => writeName name ++ " = " ++ writeValue v ++ ", " ++ writePairs rest

end

/-- Whether a value is laid out under headings of its own. -/
def hasHeading : Value → Bool
  | .table _ => true
  | .array items =>
    !items.isEmpty && items.all fun v => match v with
      | .table _ => true
      | _ => false
  | _ => false

/-- The line of a key. -/
def writeLine (name : String) (v : Value) : String :=
  writeName name ++ " = " ++ writeValue v ++ "\n"

/-- The lines of the keys of a table that have no heading. -/
def writeOwn (fields : Table) : String :=
  String.join ((fields.filter fun f => !hasHeading f.2).map fun f => writeLine f.1 f.2)

/-- Whether a table needs its own heading: it has keys of its own, or nothing at all. -/
def needsHeading (fields : Table) : Bool := fields.isEmpty || fields.any fun f => !hasHeading f.2

/-- The names of a path joined by points. -/
def writePath (path : List String) : String := ".".intercalate (path.map writeName)

mutual

/-- The blocks that the fields of the table at `path` have headings for. -/
def writeBlocks (path : List String) : List (String × Value) → List String
  | [] => []
  | (name, v) :: rest => writeBlock (path ++ [name]) v ++ writeBlocks path rest

/-- The blocks of one field. -/
def writeBlock (path : List String) : Value → List String
  | .table fields =>
    (if needsHeading fields then ["[" ++ writePath path ++ "]\n" ++ writeOwn fields] else [])
      ++ writeBlocks path fields
  | .array items => if hasHeading (.array items) then writeElements path items else []
  | _ => []

/-- The blocks of tables under one repeated heading. -/
def writeElements (path : List String) : List Value → List String
  | [] => []
  | .table fields :: rest =>
    (("[[" ++ writePath path ++ "]]\n" ++ writeOwn fields) :: writeBlocks path fields)
      ++ writeElements path rest
  | _ :: rest => writeElements path rest

end

/-- A table as a document; its blocks stand apart by empty lines. -/
def Document.write (t : Table) : String :=
  let own := writeOwn t
  "\n".intercalate ((if own.isEmpty then [] else [own]) ++ writeBlocks [] t)

mutual

/-- Whether the format can hold a value: an integer in it must have 64 bits with a sign. -/
def isWritable : Value → Bool
  | .integer n => -(Nat.pow 2 63 : Int) ≤ n ∧ n < Nat.pow 2 63
  | .array items => itemsWritable items
  | .table fields => fieldsWritable fields
  | _ => true

/-- Whether the format can hold these items. -/
def itemsWritable : List Value → Bool
  | [] => true
  | v :: rest => isWritable v && itemsWritable rest

/-- Whether the format can hold these fields. -/
def fieldsWritable : List (String × Value) → Bool
  | [] => true
  | (_, v) :: rest => isWritable v && fieldsWritable rest

end

theorem fieldsWritable_iff {fields : Table} :
    fieldsWritable fields = true ↔ ∀ f ∈ fields, isWritable f.2 = true := by
  induction fields with
  | nil => simp [fieldsWritable]
  | cons f fields ih => simp [fieldsWritable, ih]

theorem itemsWritable_iff {items : List Value} :
    itemsWritable items = true ↔ ∀ v ∈ items, isWritable v = true := by
  induction items with
  | nil => simp [itemsWritable]
  | cons v items ih => simp [itemsWritable, ih]

/-- A table as a document, unless the format cannot hold it. -/
def Document.write? (t : Table) : Option String :=
  if fieldsWritable t then some (Document.write t) else none

end Testbed.Toml
