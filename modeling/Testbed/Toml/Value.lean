import Testbed.Number.Binary64

/-!
# Values of a TOML document

A document is a table: fields in the order in which they first appear, each with a value.
-/

namespace Testbed.Toml

/-- A value of a document; a date or time is kept as its text. -/
inductive Value
  | string (text : String)
  | integer (n : Int)
  | float (x : Binary64)
  | boolean (b : Bool)
  | datetime (text : String)
  | array (items : List Value)
  | table (fields : List (String × Value))

/-- The fields of a table in document order. -/
abbrev Table := List (String × Value)

namespace Value

/-- The field name under which a date or time holds its text where a table is wanted. -/
def datetimeField : String := "$__toml_private_datetime"

/-- What a value is called when a table is wanted for an alternative. -/
def typeName : Value → String
  | string _ => "string"
  | integer _ => "integer"
  | float _ => "float"
  | boolean _ => "boolean"
  | datetime _ => "datetime"
  | array _ => "array"
  | table _ => "table"

end Value

end Testbed.Toml
