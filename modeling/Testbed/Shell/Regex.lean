import Testbed.Shell.Pattern

/-!
# Regular expressions

Expressions of characters, each of which may be repeated, between the start and the end of a
line. Groups are not known; alternatives are only those of the whole expression.
-/

namespace Testbed.Shell.Regex

/-- How often an item occurs. -/
inductive Repeat
  | once | anyNumber | atLeastOnce | atMostOnce
  deriving DecidableEq

/-- One item of an expression. -/
inductive Item
  | character (g : Glob) (r : Repeat)
  /-- The end of the line. -/
  | lineEnd
  deriving DecidableEq

/-- An expression; the flag says that it begins at the start of the line. -/
structure Expression where
  anchored : Bool
  items : List Item
  deriving DecidableEq

/-- How often the item before these characters occurs, and the rest. -/
def repetition (extended : Bool) : List Char → Repeat × List Char
  | '*' :: rest => (.anyNumber, rest)
  | '+' :: rest => if extended then (.atLeastOnce, rest) else (.once, '+' :: rest)
  | '?' :: rest => if extended then (.atMostOnce, rest) else (.once, '?' :: rest)
  | cs => (.once, cs)

/-- The items that characters spell. -/
def items (extended : Bool) : Nat → List Char → List Item
  | 0, _ => []
  | _ + 1, [] => []
  | _ + 1, ['$'] => [.lineEnd]
  | n + 1, c :: rest =>
    let item (g : Glob) (rest : List Char) : List Item :=
      let (r, rest) := repetition extended rest
      .character g r :: items extended n rest
    match c, rest with
    | '\\', d :: rest => item (.exactly d) rest
    | '.', rest => item .anyOne rest
    | '[', rest =>
      let (negated, inside) := match rest with
        | '^' :: more => (true, more)
        | more => (false, more)
      match Glob.ranges (inside.length + 1) true (inside.map fun c => (c, true)) with
      | some (l, rest) => item (.among negated l) (rest.map (·.1))
      | none => item (.exactly c) rest
    | c, rest => item (.exactly c) rest

/-- The expression that characters spell. -/
def ofChars (extended : Bool) : List Char → Expression
  | '^' :: cs => ⟨true, items extended (cs.length + 1) cs⟩
  | cs => ⟨false, items extended (cs.length + 1) cs⟩

/-- The characters between bars. -/
def splitBars (current : List Char) : List Char → List (List Char)
  | [] => [current.reverse]
  | '\\' :: c :: rest => splitBars (c :: '\\' :: current) rest
  | '|' :: rest => current.reverse :: splitBars [] rest
  | c :: rest => splitBars (c :: current) rest

/-- The alternatives that a text spells. -/
def alternatives (extended : Bool) (s : String) : List Expression :=
  (if extended then splitBars [] s.toList else [s.toList]).map (ofChars extended)

/-- The numbers of characters that a repeated item may take, the greatest first. -/
def choices (g : Glob) (r : Repeat) (cs : List Char) : List Nat :=
  let most := (cs.takeWhile g.admits).length
  match r with
  | .once => if 1 ≤ most then [1] else []
  | .anyNumber => (List.range (most + 1)).reverse
  | .atLeastOnce => ((List.range (most + 1)).drop 1).reverse
  | .atMostOnce => (List.range (min most 1 + 1)).reverse

/-- How many characters items take from the start of a text. -/
def take? : List Item → List Char → Option Nat
  | [], _ => some 0
  | .lineEnd :: is, cs => if cs.isEmpty then take? is cs else none
  | .character g r :: is, cs =>
    (choices g r cs).findSome? fun k => (take? is (cs.drop k)).map (· + k)

/-- Whether a line has a part that fits an expression. -/
def Expression.isIn (e : Expression) (line : List Char) : Bool :=
  if e.anchored then (take? e.items line).isSome
  else (Glob.ends line).any fun cs => (take? e.items cs).isSome

end Testbed.Shell.Regex
