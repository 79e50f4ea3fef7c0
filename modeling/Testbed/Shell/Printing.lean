import Testbed.Shell.Arithmetic

/-!
# Printing in scripts

What `echo` and `printf` put out. A format is used again until no argument is left; missing
arguments are empty.
-/

namespace Testbed.Shell

/-- The bytes of a text. -/
def bytesOf (s : String) : List UInt8 := s.toUTF8.toList

namespace Printing

/-! ## Escapes -/

/-- Whether a character is an octal digit. -/
def isOctal (c : Char) : Bool := '0' ≤ c && c ≤ '7'

/-- The number that up to `n` octal digits spell, and the rest. -/
def octal : Nat → Nat → List Char → Nat × List Char
  | 0, a, cs => (a, cs)
  | n + 1, a, c :: rest =>
    if isOctal c then octal n (a * 8 + (c.toNat - 48)) rest else (a, c :: rest)
  | _ + 1, a, [] => (a, [])

/-- The byte that a single character after a backslash stands for. -/
def escape? : Char → Option UInt8
  | 'a' => some 7
  | 'b' => some 8
  | 'e' => some 27
  | 'f' => some 12
  | 'n' => some 10
  | 'r' => some 13
  | 't' => some 9
  | 'v' => some 11
  | '\\' => some 92
  | _ => none

/-- What an escape stands for, given what follows the backslash; a zero may come before the
octal digits of an argument. -/
def escaped (argument : Bool) : List Char → List UInt8 × List Char
  | [] => ([92], [])
  | c :: rest =>
    if isOctal c then
      let (n, rest) := if argument && c = '0' then octal 3 0 rest else octal 3 0 (c :: rest)
      ([n.toUInt8], rest)
    else
      match escape? c with
      | some b => ([b], rest)
      | none => ([92], c :: rest)

/-- The bytes of a text with escapes, and whether it ends the output. -/
def unescape : Nat → List Char → List UInt8 × Bool
  | 0, _ => ([], false)
  | _ + 1, [] => ([], false)
  | n + 1, '\\' :: rest =>
    if rest.head? = some 'c' then ([], true)
    else
      let (here, rest) := escaped true rest
      let (more, ends) := unescape n rest
      (here ++ more, ends)
  | n + 1, c :: rest =>
    let (more, ends) := unescape n rest
    (bytesOf c.toString ++ more, ends)

/-- The bytes of an argument with escapes, and whether it ends the output. -/
def unescaped (s : String) : List UInt8 × Bool :=
  if s.toList.contains '\\' then unescape (s.length + 1) s.toList else (bytesOf s, false)

/-- Print arguments with blanks between them. -/
def echo (args : List String) : List UInt8 :=
  let (lineEnd, args) : List UInt8 × List String := match args with
    | "-n" :: rest => ([], rest)
    | args => ([10], args)
  let (body, ends) := unescaped (" ".intercalate args)
  if ends then body else body ++ lineEnd

/-! ## Formats -/

/-- How an argument is printed. -/
structure Format where
  leftAligned : Bool := false
  zeros : Bool := false
  plus : Bool := false
  blank : Bool := false
  /-- Whether the base of a number shows. -/
  based : Bool := false
  width : Nat := 0
  precision : Option Nat := none

/-- The flags of a format. -/
def flags : Format → List Char → Format × List Char
  | f, '-' :: rest => flags { f with leftAligned := true } rest
  | f, '0' :: rest => flags { f with zeros := true } rest
  | f, '+' :: rest => flags { f with plus := true } rest
  | f, ' ' :: rest => flags { f with blank := true } rest
  | f, '#' :: rest => flags { f with based := true } rest
  | f, cs => (f, cs)

/-- The number that digits spell; zero for none. -/
def count (ds : List Char) : Nat := ((String.ofList ds).toNat?).getD 0

/-- A format between the percent sign and the letter, and the arguments after those it took. -/
def format (args : List String) (cs : List Char) : Format × List String × List Char :=
  let (f, cs) := flags {} cs
  let (w, args, cs) := match cs with
    | '*' :: cs => (count (args.headD "").toList, args.drop 1, cs)
    | cs => (count (cs.takeWhile Char.isDigit), args, cs.dropWhile Char.isDigit)
  let f := { f with width := w }
  match cs with
  | '.' :: cs =>
    ({ f with precision := some (count (cs.takeWhile Char.isDigit)) }, args,
      cs.dropWhile Char.isDigit)
  | cs => (f, args, cs)

/-- Fill a text up to the width of a format. -/
def pad (f : Format) (number : Bool) (body : List UInt8) : List UInt8 :=
  let missing := f.width - body.length
  if f.leftAligned then body ++ List.replicate missing 32
  else if number && f.zeros then
    match body with
    | 45 :: rest => 45 :: List.replicate missing 48 ++ rest
    | body => List.replicate missing 48 ++ body
  else List.replicate missing 32 ++ body

/-- The number that an argument spells, and what is wrong with it. -/
def numberOf (arg : String) : Int × Option String :=
  match arg.toList with
  | '\'' :: c :: _ | '\x22' :: c :: _ => (c.toNat, none)
  | [] => (0, none)
  | cs =>
    let (negative, ds) := match Arithmetic.skipBlanks cs with
      | '-' :: ds => (true, ds)
      | '+' :: ds => (false, ds)
      | ds => (false, ds)
    let (n, rest) := Arithmetic.numeral ds
    let k : Int := if negative then -(n : Int) else n
    if !(ds.head?.any Char.isDigit) then (0, some s!"{arg}: expected numeric value")
    else if !rest.isEmpty then (k, some s!"{arg}: not completely converted")
    else (k, none)

/-- The digits of a number in a base. -/
def digitsOf (f : Format) (letter : Char) (k : Int) : String :=
  let unsigned : Nat := (UInt64.ofInt k).toNat
  match letter with
  | 'o' => (if f.based then "0" else "") ++ String.ofList (Nat.toDigits 8 unsigned)
  | 'x' => (if f.based then "0x" else "") ++ String.ofList (Nat.toDigits 16 unsigned)
  | 'X' => (if f.based then "0X" else "")
    ++ String.ofList ((Nat.toDigits 16 unsigned).map Char.toUpper)
  | 'u' => toString unsigned
  | _ =>
    let sign := if k < 0 then "-" else if f.plus then "+" else if f.blank then " " else ""
    sign ++ toString k.natAbs

/-- What one pass over a format gives. -/
structure Printed where
  out : List UInt8 := []
  args : List String
  /-- Whether it used arguments. -/
  used : Bool := false
  complaints : List String := []
  /-- Whether nothing more is printed. -/
  ends : Bool := false
  /-- Whether the format is wrong. -/
  wrong : Bool := false

/-- Print the first argument in a format of a letter. -/
def Printed.convert (p : Printed) (f : Format) (letter : Char) : Printed :=
  let arg := p.args.headD ""
  let text (b : List UInt8) := pad f false (f.precision.elim b b.take)
  let p := { p with args := p.args.drop 1, used := true }
  match letter with
  | 's' => { p with out := p.out ++ text (bytesOf arg) }
  | 'c' => { p with out := p.out ++ pad f false ((bytesOf arg).take 1) }
  | 'b' =>
    let (b, ends) := unescaped arg
    { p with out := p.out ++ text b, ends := ends }
  | _ =>
    if "diouxX".toList.contains letter then
      let (k, complaint) := numberOf arg
      { p with
        out := p.out ++ pad f true (bytesOf (digitsOf f letter k))
        complaints := p.complaints ++ complaint.toList }
    else
      { p with
        complaints := p.complaints ++ [s!"%{letter}: invalid directive"]
        ends := true
        wrong := true }

/-- One pass over a format. -/
def printOnce : Nat → Printed → List Char → Printed
  | 0, p, _ => p
  | _ + 1, p, [] => p
  | n + 1, p, '\\' :: rest =>
    let (here, rest) := escaped false rest
    printOnce n { p with out := p.out ++ here } rest
  | n + 1, p, '%' :: '%' :: rest => printOnce n { p with out := p.out ++ [37] } rest
  | n + 1, p, '%' :: rest =>
    let (f, args, rest) := format p.args rest
    match rest with
    | [] => p
    | letter :: rest =>
      let p := { p with args := args }.convert f letter
      if p.ends then p else printOnce n p rest
  | n + 1, p, c :: rest => printOnce n { p with out := p.out ++ bytesOf c.toString } rest

/-- Pass over a format until no argument is left. -/
def printAll (cs : List Char) : Nat → Printed → Printed
  | 0, p => p
  | n + 1, p =>
    let p := printOnce (cs.length + 1) { p with used := false } cs
    if p.used && !p.args.isEmpty && !p.ends then printAll cs n p else p

/-- Print arguments in a format. -/
def printf (formatText : String) (args : List String) : Printed :=
  printAll formatText.toList (args.length + 1) { args := args }

end Printing

end Testbed.Shell
