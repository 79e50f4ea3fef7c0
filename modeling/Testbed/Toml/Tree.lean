import Testbed.Toml.Value

/-!
# Building the tables of a document

A document is built from its lines in order. While it grows, each table remembers how it came
about, because that decides what later lines may add to it. A field keeps the place where it
first appeared, also when a later line gives it its own heading.
-/

namespace Testbed.Toml

/-- How a table came about. -/
inductive Standing
  /-- It was named by a heading of its own. -/
  | defined
  /-- It was only passed through by the heading of a table inside it. -/
  | passed
  /-- It was made by the points of a key. -/
  | dotted
  deriving DecidableEq

/-- A part of a document that is still growing. -/
inductive Node
  /-- A value that is complete. -/
  | value (v : Value)
  /-- A table. -/
  | table (standing : Standing) (fields : List (String × Node))
  /-- Tables under one repeated heading; only the last may grow. -/
  | tables (elements : List (List (String × Node)))

namespace Node

/-- The fields of a growing table. -/
abbrev Fields := List (String × Node)

/-- The node under a name. -/
def lookup (name : String) (fields : Fields) : Option Node :=
  (fields.find? fun f => f.1 = name).map (·.2)

/-- Put a node under a name, at its old place or at the end. -/
def put (name : String) (node : Node) : Fields → Fields
  | [] => [(name, node)]
  | (n, v) :: rest => if n = name then (n, node) :: rest else (n, v) :: put name node rest

/-- Change the last element of a list, if there is one. -/
def changeLast? {α : Type} (f : α → Option α) : List α → Option (List α)
  | [] => none
  | [a] => (f a).map ([·])
  | a :: rest => (changeLast? f rest).map (a :: ·)

/-- Go down a path of names and change the table at its end, making the tables that are missing.
`keyed` says that the path comes from the points of a key: such a path may not enter a table that
has its own heading. -/
def descend (keyed : Bool) (change : Standing → Fields → Option Fields) :
    List String → Standing → Fields → Option Fields
  | [], standing, fields => change standing fields
  | name :: path, _, fields =>
    match lookup name fields with
    | none => do
      let made := if keyed then Standing.dotted else .passed
      let inner ← descend keyed change path made []
      some (fields ++ [(name, .table made inner)])
    | some (.value _) => none
    | some (.tables elements) => do
      let elements ← changeLast? (descend keyed change path .defined) elements
      some (put name (.tables elements) fields)
    | some (.table standing inner) =>
      if keyed && standing = .defined then none
      else do
        let inner ← descend keyed change path standing inner
        some (put name (.table standing inner) fields)

/-- Add a value under the last name of a key to the table that the names before it lead to. The
table at the end must have been made by the points of keys if there are any, and must not if
there are none. -/
def addValue (path : List String) (name : String) (v : Value) (standing : Standing)
    (fields : Fields) : Option Fields :=
  descend true (fun reached inner =>
    if (reached = .dotted) = (path = []) then none
    else if (lookup name inner).isSome then none
    else some (inner ++ [(name, .value v)])) path standing fields

/-- Open the table that a heading names: one that no heading has named before. -/
def openTable (path : List String) (name : String) (root : Fields) : Option Fields :=
  descend false (fun _ inner =>
    match lookup name inner with
    | none => some (inner ++ [(name, .table .defined [])])
    | some (.table .passed fields) => some (put name (.table .defined fields) inner)
    | some _ => none) path .defined root

/-- Open a further table under a repeated heading. -/
def openElement (path : List String) (name : String) (root : Fields) : Option Fields :=
  descend false (fun _ inner =>
    match lookup name inner with
    | none => some (inner ++ [(name, .tables [[]])])
    | some (.tables elements) => some (put name (.tables (elements ++ [[]])) inner)
    | some _ => none) path .defined root

mutual

/-- The value of a part of a document that is complete. -/
def close : Node → Value
  | .value v => v
  | .table _ fields => .table (closeFields fields)
  | .tables elements => .array (closeElements elements)

/-- The fields of a complete table. -/
def closeFields : List (String × Node) → Table
  | [] => []
  | (name, node) :: rest => (name, close node) :: closeFields rest

/-- The tables under a repeated heading. -/
def closeElements : List (List (String × Node)) → List Value
  | [] => []
  | fields :: rest => .table (closeFields fields) :: closeElements rest

end

theorem closeFields_eq_map (fields : Fields) :
    closeFields fields = fields.map fun f => (f.1, f.2.close) := by
  induction fields with
  | nil => rfl
  | cons f fields ih => simp [closeFields, ih]

theorem closeElements_eq_map (elements : List Fields) :
    closeElements elements = elements.map fun e => .table (closeFields e) := by
  induction elements with
  | nil => rfl
  | cons e elements ih => simp [closeElements, ih]

end Node

end Testbed.Toml
