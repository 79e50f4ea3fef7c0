import Testbed.Files.Tree
import Testbed.Shell.Arithmetic

/-!
# Conditions in scripts

What `test` finds out about texts, numbers and files. A condition is given as words; where the
words could be read in two ways, a word between two others that joins them comes first.
-/

namespace Testbed.Shell.Condition

/-- What a condition came to: whether it holds, the last word it took, and the words left. -/
structure Verdict where
  holds : Bool
  last : String
  rest : List String

/-- The operators that join two words. -/
def joining : List String :=
  ["=", "!=", "<", ">", "-eq", "-ne", "-lt", "-le", "-gt", "-ge", "-nt", "-ot", "-ef"]

/-- The operators before one word. -/
def leading : List String :=
  ["-n", "-z", "-e", "-d", "-f", "-r", "-w", "-x", "-s", "-t", "-h", "-L", "-b", "-c", "-p", "-u",
   "-g", "-k", "-O", "-G", "-S"]

/-- The number that a word spells. -/
def number (s : String) : Except String Int :=
  match Arithmetic.numberOf? s with
  | some n => .ok n
  | none => .error s!"Illegal number: {s}"

/-- Whether a condition on two words holds. -/
def compare (op a b : String) : Except String Bool :=
  let numbers (f : Int → Int → Bool) : Except String Bool := do .ok (f (← number a) (← number b))
  match op with
  | "=" => .ok (a = b)
  | "!=" => .ok (a ≠ b)
  | "<" => .ok (a < b)
  | ">" => .ok (b < a)
  | "-eq" => numbers (· = ·)
  | "-ne" => numbers (· ≠ ·)
  | "-lt" => numbers (· < ·)
  | "-le" => numbers (· ≤ ·)
  | "-gt" => numbers (· > ·)
  | "-ge" => numbers (· ≥ ·)
  | _ => .ok false

/-- Whether a condition on one word holds. -/
def inspect (t : FileTree) (op a : String) : Bool :=
  match op with
  | "-n" => !a.isEmpty
  | "-z" => a.isEmpty
  | "-e" | "-r" | "-w" | "-O" | "-G" => t.exists? a
  | "-d" | "-x" => t.isDirectory a
  | "-f" => (t.read a).toBool && (t.locate a).toOption.any fun p => p.head? ≠ some "dev"
  | "-s" => (t.read a).toOption.any fun b => b.size ≠ 0
  | _ => false

/-- Whether a word in front of others stands for itself and not for an operator. -/
def isOperand : List String → Bool
  | [] => true
  | [_] => false
  | op :: _ :: _ => joining.contains op

variable (t : FileTree)

mutual

/-- A condition that no word joins to another. -/
def single : Nat → List String → Except String Verdict
  | 0, _ => .error "argument expected"
  | _ + 1, [] => .ok ⟨false, "", []⟩
  | n + 1, a :: rest =>
    if a = "(" && !rest.isEmpty then do
      if rest.head? = some ")" then .ok ⟨false, ")", rest.drop 1⟩
      else
        let v ← anyOf n rest
        match v.rest with
        | ")" :: rest => .ok { v with last := ")", rest := rest }
        | _ => .error "closing paren expected"
    else if leading.contains a && !isOperand rest then
      match rest with
      | b :: rest => .ok ⟨inspect t a b, b, rest⟩
      | [] => .error s!"{a}: argument expected"
    else
      match rest with
      | op :: more =>
        if joining.contains op then
          match more with
          | b :: rest => do .ok ⟨← compare op a b, b, rest⟩
          | [] => .error s!"{op}: argument expected"
        else .ok ⟨!a.isEmpty, a, rest⟩
      | [] => .ok ⟨!a.isEmpty, a, []⟩

/-- A condition with negations before it. -/
def negated : Nat → List String → Except String Verdict
  | 0, _ => .error "argument expected"
  | n + 1, ws =>
    match ws with
    | "!" :: rest =>
      if isOperand rest && !rest.isEmpty then single n ws
      else do
        let v ← negated n rest
        .ok { v with holds := !v.holds }
    | ws => single n ws

/-- Conditions that must all hold. -/
def allOf : Nat → List String → Except String Verdict
  | 0, _ => .error "argument expected"
  | n + 1, ws => do
    let v ← negated n ws
    match v.rest with
    | "-a" :: rest =>
      let w ← allOf n rest
      .ok { w with holds := v.holds && w.holds }
    | _ => .ok v

/-- Conditions of which one must hold. -/
def anyOf : Nat → List String → Except String Verdict
  | 0, _ => .error "argument expected"
  | n + 1, ws => do
    let v ← allOf n ws
    match v.rest with
    | "-o" :: rest =>
      let w ← anyOf n rest
      .ok { w with holds := v.holds || w.holds }
    | _ => .ok v

end

/-- Whether words hold as a condition, or what is wrong with them. -/
def eval (ws : List String) : Except String Bool := do
  match ws with
  | [] => .ok false
  | [a, op, b] =>
    if joining.contains op then compare op a b else general ws
  | ws => general ws
where
  /-- A condition of any number of words. -/
  general (ws : List String) : Except String Bool := do
    let v ← anyOf t (5 * ws.length + 5) ws
    if v.rest.isEmpty then .ok v.holds else .error s!"{v.last}: unexpected operator"

end Testbed.Shell.Condition
