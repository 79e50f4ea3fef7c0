/-!
# Writing JSON

`Json.pretty` lays a value out over lines, two spaces for each level; an empty array or object
stays on its line.
-/

namespace Testbed

/-- A JSON value; the fields of an object keep their order. -/
inductive Json
  | null
  | boolean (b : Bool)
  | integer (n : Int)
  | string (s : String)
  | array (items : List Json)
  | object (fields : List (String × Json))

namespace Json

/-- Two hexadecimal digits, lower case. -/
def hex2 (n : Nat) : List Char := [Nat.digitChar (n / 16 % 16), Nat.digitChar (n % 16)]

/-- A character inside a string. -/
def escape (c : Char) : List Char :=
  match c with
  | '"' => ['\\', '"']
  | '\\' => ['\\', '\\']
  | '\x08' => ['\\', 'b']
  | '\x0c' => ['\\', 'f']
  | '\n' => ['\\', 'n']
  | '\r' => ['\\', 'r']
  | '\t' => ['\\', 't']
  | c => if c.toNat < 0x20 then ['\\', 'u', '0', '0'] ++ hex2 c.toNat else [c]

/-- A string between its quotation marks. -/
def quote (s : String) : String :=
  "\"" ++ String.ofList (s.toList.flatMap escape) ++ "\""

/-- The space in front of a line at a level. -/
def indent (level : Nat) : String := String.ofList (List.replicate (2 * level) ' ')

mutual

/-- A value whose first line starts where it stands, at a level. -/
def prettyAt (level : Nat) : Json → String
  | null => "null"
  | boolean b => toString b
  | integer n => toString n
  | string s => quote s
  | array [] => "[]"
  | array items => "[\n" ++ prettyItems (level + 1) items ++ indent level ++ "]"
  | object [] => "\x7b\x7d"
  | object fields => "\x7b\n" ++ prettyFields (level + 1) fields ++ indent level ++ "\x7d"

/-- The lines of items. -/
def prettyItems (level : Nat) : List Json → String
  | [] => ""
  | [v] => indent level ++ prettyAt level v ++ "\n"
  | v :: rest => indent level ++ prettyAt level v ++ ",\n" ++ prettyItems level rest

/-- The lines of fields. -/
def prettyFields (level : Nat) : List (String × Json) → String
  | [] => ""
  | [(name, v)] => indent level ++ quote name ++ ": " ++ prettyAt level v ++ "\n"
  | (name, v) :: rest =>
    indent level ++ quote name ++ ": " ++ prettyAt level v ++ ",\n" ++ prettyFields level rest

end

/-- A value over lines. -/
def pretty (v : Json) : String := prettyAt 0 v

/-- A string, or null where there is none. -/
def orNull (s : Option String) : Json := s.elim null string

end Json

end Testbed
