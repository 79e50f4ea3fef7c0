import Testbed.NameMap
import Testbed.Schema.Misfit
import Testbed.Toml.Value

/-!
# Typed values of a TOML document

Readers that take a value of a document to a value of a given type. Records are read field by
field in document order, starting from a record of defaults, so a field that is absent keeps its
default and the first misfit in the document is the one reported.
-/

namespace Testbed.Toml

open Schema

/-- A reader of values of one type. -/
abbrev Reader (α : Type) := Value → Except Misfit α

/-- A value as messages show it. -/
def Value.found : Value → Found
  | string s => .text s
  | integer n => .integer n
  | float x => .floating x.text
  | boolean b => .boolean b
  | datetime _ => .mapping
  | array _ => .sequence
  | table _ => .mapping

/-- The fields of a value that is a table; a date or time is a table of one field. -/
def Value.fields? : Value → Option Table
  | table fields => some fields
  | datetime text => some [(datetimeField, .string text)]
  | _ => none

namespace Reader

/-- A text; `wanted` is what messages call it. -/
def text (wanted : String := "a string") : Reader String
  | .string s => .ok s
  | v => .error (.wrongType v.found wanted)

/-- A truth value. -/
def boolean : Reader Bool
  | .boolean b => .ok b
  | v => .error (.wrongType v.found "a boolean")

/-- A natural number below a bound. -/
def natural (wanted : String) (bound : Nat) : Reader Nat
  | .integer n =>
    if 0 ≤ n ∧ n < bound then .ok n.toNat else .error (.outOfRange n wanted)
  | v => .error (.wrongType v.found wanted)

/-- A number of 32 bits. -/
def word32 : Reader Nat := natural "u32" (Nat.pow 2 32)

/-- A number of 64 bits. -/
def word64 : Reader Nat := natural "u64" (Nat.pow 2 64)

/-- A value that may be absent, given here. -/
def present {α : Type} (r : Reader α) : Reader (Option α) := fun v => (r v).map some

/-- Items read one by one. -/
def list {α : Type} (r : Reader α) : Reader (List α)
  | .array items => items.mapM r
  | v => .error (.wrongType v.found "a sequence")

/-- Values under names that are free. -/
def named {α : Type} (r : Reader α) : Reader (NameMap α) := fun v =>
  match v.fields? with
  | some fields => fields.foldlM (fun m f => (r f.2).map (m.insert f.1)) .empty
  | none => .error (.wrongType v.found "a map")

/-- One of several alternatives that have names and hold nothing. -/
def alternative {α : Type} (known : List (String × α)) : Reader α := fun v =>
  let choose (name : String) : Except Misfit α :=
    match known.find? fun k => k.1 = name with
    | some k => .ok k.2
    | none => .error (.unknownVariant name (known.map (·.1)))
  match v with
  | .string name => choose name
  | .table [] => .error .emptyAlternative
  | .table [(name, held)] => do
    let a ← choose name
    match held with
    | .table [] => .ok a
    | .table _ => .error .notEmpty
    | held => .error (.notATable held.typeName)
  | .table _ => .error .manyAlternatives
  | _ => .error .noAlternative

end Reader

/-! ## Records -/

/-- A field of a record of type `σ`. -/
structure FieldRule (σ : Type) where
  /-- Its name in documents. -/
  name : String
  /-- Whether it must be given. -/
  required : Bool
  /-- Put the field's value, read from a document, into a record. -/
  set : Value → σ → Except Misfit σ

/-- A field that has a default. -/
def optional {σ α : Type} (name : String) (r : Reader α) (set : α → σ → σ) : FieldRule σ :=
  ⟨name, false, fun v s => (r v).map fun a => set a s⟩

/-- A field that must be given. -/
def needed {σ α : Type} (name : String) (r : Reader α) (set : α → σ → σ) : FieldRule σ :=
  ⟨name, true, fun v s => (r v).map fun a => set a s⟩

variable {σ : Type}

/-- Read one field of a document into a record. -/
def readField (fields : List (FieldRule σ)) (record : σ) (given : String × Value) :
    Except Misfit σ :=
  match fields.find? fun f => f.name = given.1 with
  | some f => f.set given.2 record
  | none => .error (.unknownField given.1 (fields.map (·.name)))

/-- A field that is read has a rule. -/
theorem exists_rule_of_readField {fields : List (FieldRule σ)} {record record' : σ}
    {given : String × Value} (read : readField fields record given = .ok record') :
    ∃ f, (fields.find? fun f => f.name = given.1) = some f ∧ f ∈ fields ∧ f.name = given.1 ∧
      f.set given.2 record = .ok record' := by
  unfold readField at read
  split at read
  · next f found =>
    exact ⟨f, found, List.mem_of_find?_eq_some found, by simpa using List.find?_some found, read⟩
  · cases read

/-- Read a record given as a table. -/
def readFields (fields : List (FieldRule σ)) (start : σ) (given : Table) : Except Misfit σ := do
  let record ← given.foldlM (readField fields) start
  match fields.find? fun f => f.required && !given.any fun g => g.1 = f.name with
  | some f => .error (.missingField f.name)
  | none => .ok record

/-- Read a record given as its values in order, after `index` of them; values that no field takes
do not count. -/
def readItems (wanted : String) : Nat → List (FieldRule σ) → σ → List Value → Except Misfit σ
  | _, [], record, _ => .ok record
  | index, f :: fields, record, [] =>
    if f.required then .error (.tooShort index wanted)
    else readItems wanted (index + 1) fields record []
  | index, f :: fields, record, v :: rest => do
    readItems wanted (index + 1) fields (← f.set v record) rest

/-- Read a record of a given name, starting from its defaults. -/
def Reader.record (name : String) (fields : List (FieldRule σ)) (start : σ) : Reader σ := fun v =>
  match v with
  | .array items =>
    readItems s!"struct {name} with {fields.length} elements" 0 fields start items
  | v =>
    match v.fields? with
    | some given => readFields fields start given
    | none => .error (.wrongType v.found s!"struct {name}")

end Testbed.Toml
