import Testbed.Text.Quoted

/-!
# Values that do not fit

When a document is well-formed but a value in it is not what its place asks for, the reader says
what was found and what was wanted.
-/

namespace Testbed.Schema

/-- A value as messages show it. -/
inductive Found
  | integer (n : Int)
  /-- A number that is not whole, as it is written. -/
  | floating (digits : String)
  | boolean (b : Bool)
  | text (s : String)
  | sequence
  | mapping
  | null
  deriving DecidableEq

/-- How a value is shown. -/
def Found.message : Found → String
  | integer n => s!"integer `{n}`"
  | floating digits => s!"floating point `{digits}`"
  | boolean b => s!"boolean `{b}`"
  | text s => s!"string {Text.quoted s}"
  | sequence => "sequence"
  | mapping => "map"
  | null => "null"

/-- The names that could have stood in a place. -/
def oneOf : List String → String
  | [] => "nothing"
  | [a] => s!"`{a}`"
  | [a, b] => s!"`{a}` or `{b}`"
  | names => "one of " ++ ", ".intercalate (names.map fun a => s!"`{a}`")

/-- Why a document does not have the wanted shape. -/
inductive Misfit
  /-- A record has a field that it may not have. -/
  | unknownField (name : String) (known : List String)
  /-- A record lacks a field that it must have. -/
  | missingField (name : String)
  /-- A record has a field twice. -/
  | duplicateField (name : String)
  /-- A value is of another type. -/
  | wrongType (found : Found) (wanted : String)
  /-- A number is outside its range. -/
  | outOfRange (n : Int) (wanted : String)
  /-- A record given as a sequence ends before a field that it must have. -/
  | tooShort (length : Nat) (wanted : String)
  /-- A name is none of the alternatives. -/
  | unknownVariant (name : String) (known : List String)
  /-- An alternative is given as neither a name nor a table. -/
  | noAlternative
  /-- An alternative is given as a table without a field. -/
  | emptyAlternative
  /-- An alternative is given as a table with several fields. -/
  | manyAlternatives
  /-- An alternative holds something other than a table. -/
  | notATable (found : String)
  /-- An alternative holds a table with fields. -/
  | notEmpty
  deriving DecidableEq

/-- The text of the message. -/
def Misfit.message : Misfit → String
  | unknownField name [] => s!"unknown field `{name}`, there are no fields"
  | unknownField name known => s!"unknown field `{name}`, expected {oneOf known}"
  | missingField name => s!"missing field `{name}`"
  | duplicateField name => s!"duplicate field `{name}`"
  | wrongType found wanted => s!"invalid type: {found.message}, expected {wanted}"
  | outOfRange n wanted => s!"invalid value: {(Found.integer n).message}, expected {wanted}"
  | tooShort length wanted => s!"invalid length {length}, expected {wanted}"
  | unknownVariant name known => s!"unknown variant `{name}`, expected {oneOf known}"
  | noAlternative => "wanted string or table"
  | emptyAlternative => "wanted exactly 1 element, found 0 elements"
  | manyAlternatives => "wanted exactly 1 element, more than 1 element"
  | notATable found => s!"expected table, found {found}"
  | notEmpty => "expected empty table"

end Testbed.Schema
