/-!
# Arithmetic in scripts

Integer expressions on words of 64 bits, with operators that bind more or less tightly. A name
stands for the number that its value spells, or for zero, and can be given a value.
-/

namespace Testbed.Shell.Arithmetic

/-- An operation on two numbers. -/
inductive Operator
  | times | divided | modulo | plus | minus | left | right | less | greater | atMost | atLeast
  | equal | differs | conjoin | exclude | disjoin
  deriving DecidableEq

/-- An expression. -/
inductive Expr
  | number (n : Int)
  | name (s : String)
  | negative (e : Expr)
  | complement (e : Expr)
  | not (e : Expr)
  | binary (op : Operator) (a b : Expr)
  | both (a b : Expr)
  | either (a b : Expr)
  | choose (c a b : Expr)
  /-- Give a name a value, or change its value by an operation. -/
  | assign (name : String) (op : Option Operator) (e : Expr)

/-- Why an expression has no value. -/
inductive Fault
  | expecting (what : String)
  | divisionByZero
  /-- The value of a name spells no number. -/
  | notANumber (text : String)
  deriving DecidableEq

/-! ## Values -/

/-- A truth value as a number. -/
def ofBool (b : Bool) : Int := if b then 1 else 0

/-- A number as a word of 64 bits with a sign. -/
def wrap (n : Int) : Int := n.bmod 0x10000000000000000

/-- An operation on the bits of two words. -/
def bitwise (f : UInt64 → UInt64 → UInt64) (a b : Int) : Int :=
  wrap (f (UInt64.ofInt a) (UInt64.ofInt b)).toNat

/-- The value of an operation. -/
def Operator.apply (op : Operator) (a b : Int) : Except Fault Int :=
  match op with
  | times => .ok (wrap (a * b))
  | divided => if b = 0 then .error .divisionByZero else .ok (wrap (a.tdiv b))
  | modulo => if b = 0 then .error .divisionByZero else .ok (a.tmod b)
  | plus => .ok (wrap (a + b))
  | minus => .ok (wrap (a - b))
  | left => .ok (wrap (a <<< (b % 64).toNat))
  | right => .ok (a >>> (b % 64).toNat)
  | less => .ok (ofBool (a < b))
  | greater => .ok (ofBool (a > b))
  | atMost => .ok (ofBool (a ≤ b))
  | atLeast => .ok (ofBool (a ≥ b))
  | equal => .ok (ofBool (a = b))
  | differs => .ok (ofBool (a ≠ b))
  | conjoin => .ok (bitwise (· &&& ·) a b)
  | exclude => .ok (bitwise (· ^^^ ·) a b)
  | disjoin => .ok (bitwise (· ||| ·) a b)

/-- Values that were given to names, the latest first. -/
abbrev Changes := List (String × Int)

/-- The value of a name. -/
def valueOf (value : String → Except Fault Int) (name : String) :
    StateT Changes (Except Fault) Int := do
  match (← get).lookup name with
  | some n => pure n
  | none => value name

/-- The value of an expression, where names have the values that were given to them or that
`value` tells. Operands that do not matter are not looked at. -/
def Expr.eval (value : String → Except Fault Int) : Expr → StateT Changes (Except Fault) Int
  | number n => pure n
  | name s => valueOf value s
  | negative e => do pure (wrap (-(← e.eval value)))
  | complement e => do pure (-(← e.eval value) - 1)
  | not e => do pure (ofBool ((← e.eval value) = 0))
  | binary op a b => do
    let a ← a.eval value
    op.apply a (← b.eval value)
  | both a b => do
    if (← a.eval value) = 0 then pure 0 else pure (ofBool ((← b.eval value) ≠ 0))
  | either a b => do
    if (← a.eval value) ≠ 0 then pure 1 else pure (ofBool ((← b.eval value) ≠ 0))
  | choose c a b => do
    if (← c.eval value) ≠ 0 then a.eval value else b.eval value
  | assign s op e => do
    let n ← e.eval value
    let n ← match op with
      | none => pure n
      | some op => do op.apply (← valueOf value s) n
    modify fun l => (s, n) :: l
    pure n

/-! ## Reading -/

/-- What an operator between two operands makes of them. -/
inductive Joint
  | operation (op : Operator)
  | both
  | either
  | choice
  | assignment (op : Option Operator)
  deriving DecidableEq

/-- The operators, longer spellings before those they begin with, each with how tightly it
binds. -/
def joints : List (String × Joint × Nat) :=
  [("<<=", .assignment (some .left), 0), (">>=", .assignment (some .right), 0),
   ("||", .either, 2), ("&&", .both, 3), ("==", .operation .equal, 7),
   ("!=", .operation .differs, 7), ("<=", .operation .atMost, 8), (">=", .operation .atLeast, 8),
   ("<<", .operation .left, 9), (">>", .operation .right, 9),
   ("*=", .assignment (some .times), 0), ("/=", .assignment (some .divided), 0),
   ("%=", .assignment (some .modulo), 0), ("+=", .assignment (some .plus), 0),
   ("-=", .assignment (some .minus), 0), ("&=", .assignment (some .conjoin), 0),
   ("^=", .assignment (some .exclude), 0), ("|=", .assignment (some .disjoin), 0),
   ("|", .operation .disjoin, 4), ("^", .operation .exclude, 5), ("&", .operation .conjoin, 6),
   ("<", .operation .less, 8), (">", .operation .greater, 8), ("+", .operation .plus, 10),
   ("-", .operation .minus, 10), ("*", .operation .times, 11), ("/", .operation .divided, 11),
   ("%", .operation .modulo, 11), ("?", .choice, 1), ("=", .assignment none, 0)]

/-- Characters without the blanks they begin with. -/
def skipBlanks (cs : List Char) : List Char := cs.dropWhile Char.isWhitespace

/-- The digits of a base in front, as a number, and the rest. -/
def digits (base : Nat) : Nat → List Char → Nat × List Char
  | n, [] => (n, [])
  | n, c :: rest =>
    let d := if c.isDigit then c.toNat - 48 else c.toLower.toNat - 87
    if (c.isDigit || c.isAlpha) && d < base then digits base (n * base + d) rest
    else (n, c :: rest)

/-- The greatest word. -/
def greatest : Nat := 0x7FFFFFFFFFFFFFFF

/-- The number in front: octal after a zero, hexadecimal after `0x`. -/
def numeral (cs : List Char) : Nat × List Char :=
  let (n, rest) := match cs with
    | '0' :: 'x' :: cs | '0' :: 'X' :: cs => digits 16 0 cs
    | '0' :: cs => digits 8 0 cs
    | cs => digits 10 0 cs
  (min n greatest, rest)

/-- The number that the whole of a text spells. -/
def numberOf? (s : String) : Option Int :=
  let (negative, cs) := match skipBlanks s.toList with
    | '-' :: cs => (true, cs)
    | '+' :: cs => (false, cs)
    | cs => (false, cs)
  let (n, rest) := numeral cs
  if (cs.head?.any Char.isDigit) && (skipBlanks rest).isEmpty then
    some (if negative then -(n : Int) else n)
  else none

/-- The operator in front, if it binds at least so tightly. -/
def joint? (level : Nat) (cs : List Char) : Option (String × Joint × Nat) :=
  (joints.find? fun j => j.1.toList.isPrefixOf cs).filter fun j => level ≤ j.2.2

mutual

/-- Read an operand: a number, a name, an operand after a sign, or an expression in brackets. -/
def operand : Nat → List Char → Except Fault (Expr × List Char)
  | 0, _ => .error (.expecting "primary")
  | n + 1, cs =>
    let signed (f : Expr → Expr) (rest : List Char) : Except Fault (Expr × List Char) := do
      let (e, rest) ← operand n rest
      .ok (f e, rest)
    match skipBlanks cs with
    | '(' :: rest => do
      let (e, rest) ← expression n 0 rest
      match skipBlanks rest with
      | ')' :: rest => .ok (e, rest)
      | _ => .error (.expecting "')'")
    | '-' :: rest => signed .negative rest
    | '+' :: rest => signed id rest
    | '~' :: rest => signed .complement rest
    | '!' :: rest => signed .not rest
    | c :: rest =>
      if c.isDigit then
        let (k, rest) := numeral (c :: rest)
        .ok (.number k, rest)
      else
        let (word, more) := (c :: rest).span fun c => c.isAlphanum || c = '_'
        if word.isEmpty then .error (.expecting "primary")
        else .ok (.name (String.ofList word), more)
    | [] => .error (.expecting "primary")

/-- Go on with operators that bind at least so tightly. -/
def operations : Nat → Nat → Expr → List Char → Except Fault (Expr × List Char)
  | 0, _, _, _ => .error (.expecting "primary")
  | n + 1, level, a, cs => do
    let cs := skipBlanks cs
    match joint? level cs with
    | none => .ok (a, cs)
    | some (spelling, j, binds) =>
      let rest := cs.drop spelling.length
      match j, a with
      | .operation op, a =>
        let (b, rest) ← expression n (binds + 1) rest
        operations n level (.binary op a b) rest
      | .both, a =>
        let (b, rest) ← expression n (binds + 1) rest
        operations n level (.both a b) rest
      | .either, a =>
        let (b, rest) ← expression n (binds + 1) rest
        operations n level (.either a b) rest
      | .choice, c =>
        let (a, rest) ← expression n 0 rest
        match skipBlanks rest with
        | ':' :: rest =>
          let (b, rest) ← expression n 1 rest
          .ok (.choose c a b, rest)
        | _ => .error (.expecting "':'")
      | .assignment op, .name s =>
        let (e, rest) ← expression n 0 rest
        .ok (.assign s op e, rest)
      | .assignment _, a => .ok (a, cs)

/-- Read an expression of operators that bind at least so tightly. -/
def expression : Nat → Nat → List Char → Except Fault (Expr × List Char)
  | 0, _, _ => .error (.expecting "primary")
  | n + 1, level, cs => do
    let (a, rest) ← operand n cs
    operations n level a rest

end

/-- Read an expression; an empty one is zero. -/
def parse (text : String) : Except Fault Expr := do
  let cs := text.toList
  if (skipBlanks cs).isEmpty then .ok (.number 0)
  else
    let (e, rest) ← expression (4 * cs.length + 8) 0 cs
    if (skipBlanks rest).isEmpty then .ok e else .error (.expecting "EOF")

/-- The value of an expression, and the values that it gives to names, the latest first. -/
def eval (value : String → Except Fault Int) (text : String) : Except Fault (Int × Changes) := do
  (← parse text).eval value |>.run []

/-- What is said of a fault in an expression. -/
def Fault.message (expression : String) : Fault → String
  | expecting what => s!"arithmetic expression: expecting {what}: \"{expression}\""
  | divisionByZero => s!"arithmetic expression: division by zero: \"{expression}\""
  | notANumber text => s!"Illegal number: {text}"

end Testbed.Shell.Arithmetic
