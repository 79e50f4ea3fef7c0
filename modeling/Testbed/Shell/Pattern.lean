/-!
# Patterns

A pattern describes texts: a question mark stands for one character, an asterisk for any number
of them, and brackets list the characters that one may be. Quoted characters stand for
themselves.
-/

namespace Testbed.Shell

/-- A character that may have a meaning in a pattern; the flag says so. -/
abbrev Marked := Char × Bool

/-- One item of a pattern. -/
inductive Glob
  | exactly (c : Char)
  | anyOne
  | anyNumber
  /-- A character in one of the ranges, or in none of them. -/
  | among (negated : Bool) (ranges : List (Char × Char))
  deriving DecidableEq

namespace Glob

/-- The ranges of a class of characters. -/
def classOf? : String → Option (List (Char × Char))
  | "alpha" => some [('a', 'z'), ('A', 'Z')]
  | "digit" => some [('0', '9')]
  | "alnum" => some [('a', 'z'), ('A', 'Z'), ('0', '9')]
  | "upper" => some [('A', 'Z')]
  | "lower" => some [('a', 'z')]
  | "space" => some [('\t', '\r'), (' ', ' ')]
  | "punct" => some [('!', '/'), (':', '@'), ('[', '\x60'), ('\x7b', '~')]
  | _ => none

/-- The ranges up to the closing bracket, and the rest; `first` holds before the first of them. -/
def ranges : Nat → Bool → List Marked → Option (List (Char × Char) × List Marked)
  | 0, _, _ => none
  | _ + 1, _, [] => none
  | n + 1, first, (c, marked) :: rest =>
    if c = ']' && marked && !first then some ([], rest)
    else
      match c, rest with
      | '[', (':', _) :: more =>
        let (name, after) := more.span fun m => m.1 ≠ ':'
        match classOf? (String.ofList (name.map (·.1))), after with
        | some l, _ :: (']', _) :: rest => do
          let (ls, rest) ← ranges n false rest
          some (l ++ ls, rest)
        | _, _ => none
      | c, ('-', _) :: (d, m) :: more =>
        if d = ']' && m then do
          let (ls, rest) ← ranges n false rest
          some ((c, c) :: ls, rest)
        else do
          let (ls, rest) ← ranges n false more
          some ((c, d) :: ls, rest)
      | c, rest => do
        let (ls, rest) ← ranges n false rest
        some ((c, c) :: ls, rest)

/-- The pattern that characters spell. -/
def ofChars : Nat → List Marked → List Glob
  | 0, _ => []
  | _ + 1, [] => []
  | n + 1, (c, false) :: rest => exactly c :: ofChars n rest
  | n + 1, (c, true) :: rest =>
    match c with
    | '?' => anyOne :: ofChars n rest
    | '*' => anyNumber :: ofChars n rest
    | '[' =>
      let (negated, inside) := match rest with
        | ('!', true) :: more | ('^', true) :: more => (true, more)
        | more => (false, more)
      match ranges n true inside with
      | some (l, rest) => among negated l :: ofChars n rest
      | none => exactly c :: ofChars n rest
    | c => exactly c :: ofChars n rest

/-- The pattern that marked characters spell. -/
def ofMarked (cs : List Marked) : List Glob := ofChars (cs.length + 1) cs

/-- Whether a character fits an item. -/
def admits : Glob → Char → Bool
  | exactly d, c => c = d
  | anyOne, _ => true
  | anyNumber, _ => false
  | among negated l, c => (l.any fun r => r.1 ≤ c && c ≤ r.2) != negated

/-- All ends of a list, the whole list first. -/
def ends {α : Type} : List α → List (List α)
  | [] => [[]]
  | a :: rest => (a :: rest) :: ends rest

/-- Whether a text fits a pattern. -/
def fits : List Glob → List Char → Bool
  | [], cs => cs.isEmpty
  | .anyNumber :: ps, cs => (ends cs).any (fits ps)
  | _ :: _, [] => false
  | p :: ps, c :: cs => p.admits c && fits ps cs

/-- A text without the part at its start that fits a pattern; of several parts the longest or the
shortest. -/
def trimStart (p : List Glob) (longest : Bool) (cs : List Char) : List Char :=
  let lengths := List.range (cs.length + 1)
  let lengths := if longest then lengths.reverse else lengths
  cs.drop ((lengths.find? fun k => fits p (cs.take k)).getD 0)

/-- A text without the part at its end that fits a pattern. -/
def trimEnd (p : List Glob) (longest : Bool) (cs : List Char) : List Char :=
  let lengths := List.range (cs.length + 1)
  let lengths := if longest then lengths else lengths.reverse
  cs.take ((lengths.find? fun k => fits p (cs.drop k)).getD cs.length)

/-- Whether a character means more than itself. -/
def isActive (m : Marked) : Bool := m.2 && (m.1 = '*' || m.1 = '?' || m.1 = '[')

end Glob

end Testbed.Shell
