import Testbed.Toml.Value
import Testbed.Toml.Scan

/-!
# Numbers, truth values, dates and times of TOML

A scalar that is not a string is a run of word characters; `scalarOf?` reads the whole run. A
date may be followed by a space and a time.
-/

namespace Testbed.Toml

/-- The characters of which numbers, truth values, dates and times are made. -/
def isWordChar (c : Char) : Bool := c.isAlphanum || "+-_.:".toList.contains c

/-! ## Digits -/

/-- Digits with single underscores between them, as plain digits. -/
def digitsWith? (isDigit : Char → Bool) : List Char → Option (List Char)
  | [] => none
  | [c] => if isDigit c then some [c] else none
  | c :: '_' :: rest =>
    if isDigit c then (digitsWith? isDigit rest).map (c :: ·) else none
  | c :: rest => if isDigit c then (digitsWith? isDigit rest).map (c :: ·) else none

/-- Plain digits of a whole number without a leading zero. -/
def wholeDigits? (cs : List Char) : Option (List Char) := do
  let digits ← digitsWith? Char.isDigit cs
  match digits with
  | '0' :: _ :: _ => none
  | _ => some digits

/-- The number with the given digits. -/
def numberOf (base : Nat) (digits : List Char) : Nat :=
  digits.foldl (fun n c => n * base + (hexValue? c).getD 0) 0

/-- A sign in front: whether it is a minus, and the rest. -/
def signOf : List Char → Bool × List Char
  | '-' :: rest => (true, rest)
  | '+' :: rest => (false, rest)
  | cs => (false, cs)

/-! ## Numbers -/

/-- A whole number within 64 bits. -/
def integer? (cs : List Char) : Option Value := do
  let inBase (base : Nat) (isDigit : Char → Bool) (rest : List Char) : Option Value := do
    let n := numberOf base (← digitsWith? isDigit rest)
    if n < Nat.pow 2 63 then some (.integer n) else none
  match cs with
  | '0' :: 'x' :: rest => inBase 16 (fun c => (hexValue? c).isSome) rest
  | '0' :: 'o' :: rest => inBase 8 (fun c => '0' ≤ c && c ≤ '7') rest
  | '0' :: 'b' :: rest => inBase 2 (fun c => c = '0' || c = '1') rest
  | _ =>
    let (negative, rest) := signOf cs
    let n : Int := numberOf 10 (← wholeDigits? rest)
    let n := if negative then -n else n
    if -(Nat.pow 2 63 : Int) ≤ n ∧ n < Nat.pow 2 63 then some (.integer n) else none

/-- An exponent after its letter. -/
def exponent? (cs : List Char) : Option Int := do
  let (negative, rest) := signOf cs
  let n : Int := numberOf 10 (← digitsWith? Char.isDigit rest)
  some (if negative then -n else n)

/-- A number with a fraction or an exponent. One too large for the format is refused if it is
positive. -/
def float? (cs : List Char) : Option Value := do
  let (negative, rest) := signOf cs
  match rest with
  | ['i', 'n', 'f'] => some (.float (.infinite negative))
  | ['n', 'a', 'n'] => some (.float .nan)
  | _ =>
    let isMark := fun c : Char => c = 'e' || c = 'E'
    let mantissa := rest.takeWhile fun c => !isMark c
    let power ← match rest.dropWhile (fun c => !isMark c) with
      | [] => some 0
      | _ :: more => exponent? more
    let whole := mantissa.takeWhile (· != '.')
    let part ← match mantissa.dropWhile (· != '.') with
      | [] => if mantissa.length = rest.length then none else some []
      | _ :: more => digitsWith? Char.isDigit more
    let digits := (← wholeDigits? whole) ++ part
    let x := Binary64.ofDecimal negative (numberOf 10 digits) (power - part.length)
    if x = .infinite false then none else some (.float x)

/-! ## Dates and times -/

/-- A number of exactly two digits within bounds. -/
def twoDigits? (low high : Nat) (a b : Char) : Option Nat :=
  if a.isDigit && b.isDigit then
    let n := numberOf 10 [a, b]
    if low ≤ n ∧ n ≤ high then some n else none
  else none

/-- The number of days of a month. -/
def daysIn (year month : Nat) : Nat :=
  if month = 2 then
    if year % 4 = 0 ∧ (year % 100 ≠ 0 ∨ year % 400 = 0) then 29 else 28
  else if month ∈ [4, 6, 9, 11] then 30
  else 31

/-- A date in front: its text and the rest. -/
def date? : List Char → Option (List Char × List Char)
  | y1 :: y2 :: y3 :: y4 :: '-' :: m1 :: m2 :: '-' :: d1 :: d2 :: rest => do
    if !(([y1, y2, y3, y4] : List Char).all Char.isDigit) then none
    let month ← twoDigits? 1 12 m1 m2
    let _ ← twoDigits? 1 (daysIn (numberOf 10 [y1, y2, y3, y4]) month) d1 d2
    some ([y1, y2, y3, y4, '-', m1, m2, '-', d1, d2], rest)
  | _ => none

/-- The digits after the point of a second: nine are kept, zeros at the end are not. -/
def secondPart? : List Char → Option (List Char × List Char)
  | '.' :: rest =>
    let digits := rest.takeWhile Char.isDigit
    if digits.isEmpty then none
    else
      let kept := ((digits.take 9).reverse.dropWhile (· = '0')).reverse
      some (if kept.isEmpty then [] else '.' :: kept, rest.dropWhile Char.isDigit)
  | rest => some ([], rest)

/-- A time of day in front: its text and the rest. -/
def time? : List Char → Option (List Char × List Char)
  | h1 :: h2 :: ':' :: m1 :: m2 :: ':' :: s1 :: s2 :: rest => do
    let _ ← twoDigits? 0 23 h1 h2
    let _ ← twoDigits? 0 59 m1 m2
    let _ ← twoDigits? 0 60 s1 s2
    let (part, rest) ← secondPart? rest
    some ([h1, h2, ':', m1, m2, ':', s1, s2] ++ part, rest)
  | _ => none

/-- The distance from universal time at the end of a date and time. -/
def offset? : List Char → Option (List Char)
  | [] => some []
  | ['Z'] | ['z'] => some ['Z']
  | [sign, h1, h2, ':', m1, m2] => do
    if sign != '+' && sign != '-' then none
    let _ ← twoDigits? 0 23 h1 h2
    let _ ← twoDigits? 0 59 m1 m2
    some [sign, h1, h2, ':', m1, m2]
  | _ => none

/-- A date, a time, or a date with a time; the mark between them is written as `T`. -/
def datetime? (cs : List Char) : Option Value :=
  match date? cs with
  | some (date, []) => some (.datetime (String.ofList date))
  | some (date, mark :: rest) =>
    if mark = 'T' ∨ mark = 't' ∨ mark = ' ' then do
      let (time, rest) ← time? rest
      let offset ← offset? rest
      some (.datetime (String.ofList (date ++ 'T' :: time ++ offset)))
    else none
  | none =>
    match time? cs with
    | some (time, []) => some (.datetime (String.ofList time))
    | _ => none

/-! ## Scalars -/

/-- The value that a run of word characters stands for. -/
def scalarOf? (word : List Char) : Option Value :=
  match word with
  | ['t', 'r', 'u', 'e'] => some (.boolean true)
  | ['f', 'a', 'l', 's', 'e'] => some (.boolean false)
  | _ => datetime? word <|> integer? word <|> float? word

/-- Whether a space and a time follow a date. -/
def timeFollows : List Char → Bool
  | ' ' :: a :: b :: ':' :: _ => a.isDigit && b.isDigit
  | _ => false

/-- A scalar that is not a string, and the rest. -/
def scalar? (cs : List Char) : Option (Value × List Char) :=
  let word := cs.takeWhile isWordChar
  let rest := cs.dropWhile isWordChar
  let longer := match date? word with
    | some (_, []) => timeFollows rest
    | _ => false
  if longer then
    let more := rest.drop 1
    (scalarOf? (word ++ ' ' :: more.takeWhile isWordChar)).map
      fun v => (v, more.dropWhile isWordChar)
  else (scalarOf? word).map fun v => (v, rest)

end Testbed.Toml
