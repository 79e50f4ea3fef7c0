import Testbed.Json.Scan
import Testbed.NameMap

/-!
# Typed values of a JSON text

Readers that take the text at their place to a value of a given type. A record is read field by
field as the text goes by, so whichever comes first in the text is reported: a place where it is
not JSON, or a value that does not fit. Fields that a record does not know are skipped.
-/

namespace Testbed.Json

open Schema

/-- A reader of values of one type. -/
abbrev Reader (α : Type) := List Char → Except Failure (α × List Char)

/-- The failure of a place where another value is wanted: what stands there is read first. -/
def wrongType {α : Type} (wanted : String) (cs : List Char) : Except Failure α :=
  let unfit (found : Found) : Failure := .misfit (.wrongType found wanted)
  let word (letters : List Char) (found : Found) (rest : List Char) : Except Failure α := do
    let _ ← expect letters rest
    .error (unfit found)
  match cs with
  | [] => .error .unfinished
  | 'n' :: rest => word ['u', 'l', 'l'] .null rest
  | 't' :: rest => word ['r', 'u', 'e'] (.boolean true) rest
  | 'f' :: rest => word ['a', 'l', 's', 'e'] (.boolean false) rest
  | '-' :: rest => do .error (unfit (← number true rest).1.found)
  | '"' :: rest => do .error (unfit (.text (← stringRest rest).1))
  | '[' :: _ => .error (unfit .sequence)
  | '\x7b' :: _ => .error (unfit .mapping)
  | c :: rest =>
    if c.isDigit then do .error (unfit (← number false (c :: rest)).1.found)
    else .error .malformed

namespace Reader

/-- A text. -/
def text : Reader String := fun cs =>
  match skipSpace cs with
  | '"' :: rest => stringRest rest
  | here => wrongType "a string" here

/-- A truth value. -/
def boolean : Reader Bool := fun cs =>
  match skipSpace cs with
  | 't' :: rest => do .ok (true, ← expect ['r', 'u', 'e'] rest)
  | 'f' :: rest => do .ok (false, ← expect ['a', 'l', 's', 'e'] rest)
  | here => wrongType "a boolean" here

/-- A number of 32 bits. -/
def word32 : Reader Nat := fun cs => do
  let fit (n : Number) (rest : List Char) : Except Failure (Nat × List Char) :=
    match n with
    | .whole n =>
      if 0 ≤ n ∧ n < Nat.pow 2 32 then .ok (n.toNat, rest)
      else .error (.misfit (.outOfRange n "u32"))
    | x => .error (.misfit (.wrongType x.found "u32"))
  match skipSpace cs with
  | '-' :: rest =>
    let (n, rest) ← number true rest
    fit n rest
  | c :: rest =>
    if c.isDigit then
      let (n, rest) ← number false (c :: rest)
      fit n rest
    else wrongType "u32" (c :: rest)
  | [] => .error .unfinished

/-- A value, or null. -/
def nullable {α : Type} (r : Reader α) : Reader (Option α) := fun cs =>
  match skipSpace cs with
  | 'n' :: rest => do .ok (none, ← expect ['u', 'l', 'l'] rest)
  | here => do
    let (a, rest) ← r here
    .ok (some a, rest)

end Reader

/-! ## Objects -/

/-- Where the reading of an object stands: at its end, or at the value of a field. -/
inductive NextField
  | done (rest : List Char)
  | field (name : String) (value : List Char)

/-- The next field of an object; `first` says that none was read yet. -/
def nextField (first : Bool) (cs : List Char) : Except Failure NextField := do
  let here ← match skipSpace cs with
    | [] => .error .unfinished
    | '\x7d' :: rest => return .done rest
    | ',' :: rest => if first then .error .malformed else pure (skipSpace rest)
    | here => if first then pure here else .error .malformed
  match here with
  | [] => .error .unfinished
  | '"' :: rest =>
    let (name, rest) ← stringRest rest
    match skipSpace rest with
    | [] => .error .unfinished
    | ':' :: rest => return .field name rest
    | _ => .error .malformed
  | _ => .error .malformed

/-- Read the fields of an object one after the other into a result, at most `fuel` of them. -/
def foldFields {σ : Type} (step : σ → String → Reader σ) :
    Nat → Bool → σ → List Char → Except Failure (σ × List Char)
  | 0, _, _, _ => .error .unfinished
  | fuel + 1, first, s, cs => do
    match ← nextField first cs with
    | .done rest => .ok (s, rest)
    | .field name value =>
      let (s, rest) ← step s name value
      foldFields step fuel false s rest

/-- Values under names that are free; of two with one name the later counts. -/
def Reader.named {α : Type} (r : Reader α) : Reader (NameMap α) := fun cs =>
  match skipSpace cs with
  | '\x7b' :: rest =>
    foldFields (fun m name value => do
      let (a, rest) ← r value
      .ok (m.insert name a, rest)) (rest.length + 1) true .empty rest
  | here => wrongType "a map" here

/-! ## Records -/

/-- A field of a record of type `σ`. -/
structure FieldRule (σ : Type) where
  /-- Its name. -/
  name : String
  /-- Whether it must be given. -/
  required : Bool
  /-- Read the field's value into a record. -/
  read : σ → Reader σ

/-- A field that must be given. -/
def needed {σ α : Type} (name : String) (r : Reader α) (set : α → σ → σ) : FieldRule σ :=
  ⟨name, true, fun s cs => do
    let (a, rest) ← r cs
    .ok (set a s, rest)⟩

/-- A field that has a default. -/
def optional {σ α : Type} (name : String) (r : Reader α) (set : α → σ → σ) : FieldRule σ :=
  { needed name r set with required := false }

variable {σ : Type}

/-- Read one field of a record; no field may be given twice. `seen` are the names before it. -/
def readField (fields : List (FieldRule σ)) (state : σ × List String) (name : String) :
    Reader (σ × List String) := fun cs =>
  match fields.find? fun f => f.name = name with
  | none => do .ok (state, ← skipValue (2 * cs.length + 2) cs)
  | some f =>
    if name ∈ state.2 then .error (.misfit (.duplicateField name))
    else do
      let (s, rest) ← f.read state.1 cs
      .ok ((s, name :: state.2), rest)

/-- The items of a record given as an array, after `index` of them; `rest` follows the last. -/
def readItems (wanted : String) : Nat → List (FieldRule σ) → σ → Reader σ
  | _, [], s, cs => .ok (s, cs)
  | index, f :: fields, s, cs => do
    let here ← match skipSpace cs with
      | [] => .error .unfinished
      | ']' :: _ => pure none
      | ',' :: rest =>
        if index = 0 then pure (some (',' :: rest)) else
        match skipSpace rest with
        | [] => .error .unfinished
        | ']' :: _ => .error .malformed
        | here => pure (some here)
      | here => if index = 0 then pure (some here) else .error .malformed
    match here with
    | none =>
      if f.required then .error (.misfit (.tooShort index wanted))
      else readItems wanted (index + 1) fields s cs
    | some here => do
      let (s, rest) ← f.read s here
      readItems wanted (index + 1) fields s rest

/-- The end of an array. -/
def arrayEnd (cs : List Char) : Except Failure (List Char) :=
  match skipSpace cs with
  | [] => .error .unfinished
  | ']' :: rest => .ok rest
  | _ => .error .malformed

/-- A record of a given name, starting from its defaults. -/
def Reader.record (name : String) (fields : List (FieldRule σ)) (start : σ) : Reader σ := fun cs =>
  match skipSpace cs with
  | '[' :: rest => do
    let (s, rest) ← readItems s!"struct {name} with {fields.length} elements" 0 fields start rest
    .ok (s, ← arrayEnd rest)
  | '\x7b' :: rest => do
    let ((s, seen), rest) ← foldFields (readField fields) (rest.length + 1) true (start, []) rest
    match fields.find? fun f => f.required && !seen.contains f.name with
    | some f => .error (.misfit (.missingField f.name))
    | none => .ok (s, rest)
  | here => wrongType s!"struct {name}" here

/-- Read a whole text as one value. -/
def readAll {α : Type} (r : Reader α) (text : String) : Except Failure α := do
  let (a, rest) ← r text.toList
  if (skipSpace rest).isEmpty then .ok a else .error .malformed

end Testbed.Json
