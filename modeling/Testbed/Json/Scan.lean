import Testbed.Number.Binary64
import Testbed.Schema.Misfit

/-!
# The characters of JSON

JSON is read as a stream: each scanner takes the characters at its place and returns what it read
with the characters after it, and the first failure in the text is the one reported.
-/

namespace Testbed.Json

open Schema

/-- Why a text could not be read. -/
inductive Failure
  /-- The text is not JSON at some point. -/
  | malformed
  /-- The text ended too early. -/
  | unfinished
  /-- A value does not fit. -/
  | misfit (m : Misfit)
  deriving DecidableEq

/-- Space, tab, line feed and carriage return. -/
def isSpace (c : Char) : Bool := c = ' ' || c = '\n' || c = '\t' || c = '\r'

/-- Skip blank space. -/
def skipSpace (cs : List Char) : List Char := cs.dropWhile isSpace

/-- The rest after an expected word; `word` is what is still expected of it. -/
def expect : List Char → List Char → Except Failure (List Char)
  | [], cs => .ok cs
  | _ :: _, [] => .error .unfinished
  | w :: word, c :: cs => if c = w then expect word cs else .error .malformed

/-! ## Strings -/

/-- The value of a hexadecimal digit. -/
def hexValue? (c : Char) : Option Nat :=
  if c.isDigit then some (c.toNat - '0'.toNat)
  else if 'a' ≤ c ∧ c ≤ 'f' then some (c.toNat - 'a'.toNat + 10)
  else if 'A' ≤ c ∧ c ≤ 'F' then some (c.toNat - 'A'.toNat + 10)
  else none

/-- The value of four hexadecimal digits. The text is unfinished only if fewer than four bytes
are left. -/
def hex4 : List Char → Except Failure (Nat × List Char)
  | a :: b :: c :: d :: rest =>
    match [a, b, c, d].mapM hexValue? with
    | some values => .ok (values.foldl (fun n v => n * 16 + v) 0, rest)
    | none => .error .malformed
  | cs => .error (if (String.ofList cs).utf8ByteSize < 4 then .unfinished else .malformed)

/-- The character that a one-letter escape stands for. -/
def escaped? : Char → Option Char
  | '"' => some '"'
  | '\\' => some '\\'
  | '/' => some '/'
  | 'b' => some '\x08'
  | 'f' => some '\x0c'
  | 'n' => some '\n'
  | 'r' => some '\r'
  | 't' => some '\t'
  | _ => none

/-- The rest of an escape by code unit: one unit, or a leading and a trailing one. -/
def unicodeEscape (cs : List Char) : Except Failure (Char × List Char) := do
  let (n, rest) ← hex4 cs
  if 0xDC00 ≤ n ∧ n ≤ 0xDFFF then .error .malformed
  else if 0xD800 ≤ n ∧ n ≤ 0xDBFF then
    match rest with
    | [] => .error .unfinished
    | ['\\'] => .error .unfinished
    | '\\' :: 'u' :: rest =>
      let (m, rest) ← hex4 rest
      if 0xDC00 ≤ m ∧ m ≤ 0xDFFF then
        .ok (Char.ofNat (0x10000 + (n - 0xD800) * 0x400 + (m - 0xDC00)), rest)
      else .error .malformed
    | _ => .error .malformed
  else .ok (Char.ofNat n, rest)

/-- The rest of a string after its opening mark, at most `fuel` characters of it. -/
def stringFrom : Nat → List Char → Except Failure (List Char × List Char)
  | 0, _ => .error .unfinished
  | _ + 1, [] => .error .unfinished
  | fuel + 1, c :: rest =>
    if c = '"' then .ok ([], rest)
    else if c = '\\' then
      match rest with
      | [] => .error .unfinished
      | 'u' :: rest => do
        let (ch, rest) ← unicodeEscape rest
        let (cs, after) ← stringFrom fuel rest
        .ok (ch :: cs, after)
      | e :: rest =>
        match escaped? e with
        | none => .error .malformed
        | some ch => do
          let (cs, after) ← stringFrom fuel rest
          .ok (ch :: cs, after)
    else if c.toNat < 0x20 then .error .malformed
    else do
      let (cs, after) ← stringFrom fuel rest
      .ok (c :: cs, after)

/-- The rest of a string after its opening mark. -/
def stringRest (cs : List Char) : Except Failure (String × List Char) := do
  let (body, rest) ← stringFrom (cs.length + 1) cs
  .ok (String.ofList body, rest)

/-- Skip the rest of a string whose value is not wanted: surrogates need not be paired. -/
def skipStringFrom : Nat → List Char → Except Failure (List Char)
  | 0, _ => .error .unfinished
  | _ + 1, [] => .error .unfinished
  | fuel + 1, c :: rest =>
    if c = '"' then .ok rest
    else if c = '\\' then
      match rest with
      | [] => .error .unfinished
      | 'u' :: rest => do
        let (_, rest) ← hex4 rest
        skipStringFrom fuel rest
      | e :: rest => if (escaped? e).isSome then skipStringFrom fuel rest else .error .malformed
    else if c.toNat < 0x20 then .error .malformed
    else skipStringFrom fuel rest

/-! ## Numbers -/

/-- A number as it is read: whole, or of the binary64 format. -/
inductive Number
  | whole (n : Int)
  | floating (x : Binary64)

/-- A number as messages show it. -/
def Number.found : Number → Found
  | whole n => .integer n
  | floating x => .floating x.shortText

/-- Take digits onto a significand as long as it stays within 64 bits: the significand, how many
were taken, and the rest. -/
def takeDigits (significand taken : Nat) : List Char → Nat × Nat × List Char
  | [] => (significand, taken, [])
  | c :: rest =>
    if c.isDigit then
      let next := significand * 10 + (c.toNat - '0'.toNat)
      if next < Nat.pow 2 64 then takeDigits next (taken + 1) rest
      else (significand, taken, c :: rest)
    else (significand, taken, c :: rest)

/-- `significand · 10^exponent` in steps that the format can hold; too large a value is refused.
After a few steps down by `10^308` every value is zero. -/
def scaleBy (exponent : Int) : Nat → Binary64 → Except Failure Binary64
  | 0, x => .ok x
  | fuel + 1, x =>
    if exponent.natAbs ≤ 308 then
      if 0 ≤ exponent then
        match x.timesPowerOfTen exponent.toNat with
        | .infinite _ => .error .malformed
        | y => .ok y
      else .ok (x.overPowerOfTen (-exponent).toNat)
    else if x.isZero then .ok x
    else if 0 ≤ exponent then .error .malformed
    else scaleBy (exponent + 308) fuel (x.overPowerOfTen 308)

/-- The value of a number that is not whole. -/
def floatOf (negative : Bool) (significand : Nat) (exponent : Int) : Except Failure Binary64 := do
  let x ← scaleBy exponent 8 (.ofDecimal false significand 0)
  .ok (if negative then x.neg else x)

/-- The greatest exponent that is kept as a number. -/
def maxExponent : Nat := Nat.pow 2 31 - 1

/-- Take the digits of an exponent; `none` once it is too great. -/
def exponentDigits (value : Nat) : List Char → Option Nat × List Char
  | [] => (some value, [])
  | c :: rest =>
    if c.isDigit then
      let next := value * 10 + (c.toNat - '0'.toNat)
      if next ≤ maxExponent then exponentDigits next rest
      else (none, rest.dropWhile Char.isDigit)
    else (some value, c :: rest)

/-- The rest of a number after the letter of its exponent. -/
def exponentRest (negative : Bool) (significand : Nat) (start : Int) (cs : List Char) :
    Except Failure (Binary64 × List Char) := do
  let (down, cs) := match cs with
    | '+' :: rest => (false, rest)
    | '-' :: rest => (true, rest)
    | cs => (false, cs)
  match cs with
  | [] => .error .unfinished
  | c :: rest =>
    if !c.isDigit then .error .malformed
    else
      match exponentDigits (c.toNat - '0'.toNat) rest with
      | (some e, rest) =>
        .ok (← floatOf negative significand (if down then start - e else start + e), rest)
      | (none, rest) =>
        if significand ≠ 0 ∧ !down then .error .malformed
        else .ok (.finite negative 0 (-1074), rest)

/-- The exponent of a number, if there is one. -/
def maybeExponent (negative : Bool) (significand : Nat) (start : Int) (cs : List Char) :
    Except Failure (Binary64 × List Char) :=
  match cs with
  | 'e' :: rest | 'E' :: rest => exponentRest negative significand start rest
  | cs => do .ok (← floatOf negative significand start, cs)

/-- The rest of a number after its point. Digits that the significand cannot take do not
count. -/
def fractionRest (negative : Bool) (significand : Nat) (start : Int) (cs : List Char) :
    Except Failure (Binary64 × List Char) :=
  let (significand', taken, rest) := takeDigits significand 0 cs
  match rest with
  | c :: _ =>
    if c.isDigit then
      maybeExponent negative significand' (start - taken) (rest.dropWhile Char.isDigit)
    else if taken = 0 then .error .malformed
    else maybeExponent negative significand' (start - taken) rest
  | [] =>
    if taken = 0 then .error .unfinished
    else maybeExponent negative significand' (start - taken) []

/-- The rest of a whole number whose digits no longer fit. -/
def longRest (negative : Bool) (significand : Nat) (cs : List Char) :
    Except Failure (Binary64 × List Char) :=
  let more := cs.takeWhile Char.isDigit
  match cs.dropWhile Char.isDigit with
  | '.' :: rest => fractionRest negative significand more.length rest
  | rest => maybeExponent negative significand more.length rest

/-- A number after its sign. -/
def number (negative : Bool) (cs : List Char) : Except Failure (Number × List Char) := do
  match cs with
  | [] => .error .unfinished
  | c :: rest =>
    if !c.isDigit then .error .malformed
    else
      let (significand, _, rest) :=
        if c = '0' then (0, 1, rest) else takeDigits 0 0 (c :: rest)
      match rest with
      | '.' :: rest =>
        let (x, rest) ← fractionRest negative significand 0 rest
        .ok (.floating x, rest)
      | 'e' :: rest | 'E' :: rest =>
        let (x, rest) ← exponentRest negative significand 0 rest
        .ok (.floating x, rest)
      | d :: more =>
        if d.isDigit then
          if c = '0' then .error .malformed
          else
            let (x, rest) ← longRest negative significand (d :: more)
            .ok (.floating x, rest)
        else .ok (whole negative significand, rest)
      | [] => .ok (whole negative significand, [])
where
  /-- A whole number; a negative one beyond 64 bits, and the negative zero, are not whole. -/
  whole (negative : Bool) (significand : Nat) : Number :=
    if !negative then .whole significand
    else if significand = 0 ∨ Nat.pow 2 63 < significand then
      .floating (.ofDecimal true significand 0)
    else .whole (-significand)

/-- Skip the digits of a number whose value is not wanted, after its sign. -/
def skipNumber (cs : List Char) : Except Failure (List Char) :=
  let skipExponent (cs : List Char) : Except Failure (List Char) :=
    let cs := match cs with
      | '+' :: rest | '-' :: rest => rest
      | cs => cs
    match cs with
    | c :: rest => if c.isDigit then .ok (rest.dropWhile Char.isDigit) else .error .malformed
    | [] => .error .malformed
  let maybeExponent (cs : List Char) : Except Failure (List Char) :=
    match cs with
    | 'e' :: rest | 'E' :: rest => skipExponent rest
    | cs => .ok cs
  match cs with
  | [] => .error .malformed
  | c :: rest =>
    if !c.isDigit then .error .malformed
    else
      let after := rest.dropWhile Char.isDigit
      if c = '0' ∧ after.length ≠ rest.length then .error .malformed
      else
        match after with
        | '.' :: d :: rest =>
          if d.isDigit then maybeExponent (rest.dropWhile Char.isDigit) else .error .malformed
        | ['.'] => .error .malformed
        | after => maybeExponent after

/-! ## Skipping -/

mutual

/-- Skip a value that is not wanted. -/
def skipValue : Nat → List Char → Except Failure (List Char)
  | 0, _ => .error .unfinished
  | fuel + 1, cs =>
    match skipSpace cs with
    | [] => .error .unfinished
    | 'n' :: rest => expect ['u', 'l', 'l'] rest
    | 't' :: rest => expect ['r', 'u', 'e'] rest
    | 'f' :: rest => expect ['a', 'l', 's', 'e'] rest
    | '-' :: rest => skipNumber rest
    | '"' :: rest => skipStringFrom (rest.length + 1) rest
    | '[' :: rest =>
      match skipSpace rest with
      | [] => .error .unfinished
      | ']' :: rest => .ok rest
      | here => skipItems fuel here
    | '\x7b' :: rest =>
      match skipSpace rest with
      | [] => .error .unfinished
      | '\x7d' :: rest => .ok rest
      | here => skipFields fuel here
    | c :: rest => if c.isDigit then skipNumber (c :: rest) else .error .malformed

/-- Skip the items of an array up to its end. -/
def skipItems : Nat → List Char → Except Failure (List Char)
  | 0, _ => .error .unfinished
  | fuel + 1, cs => do
    match skipSpace (← skipValue fuel cs) with
    | [] => .error .unfinished
    | ',' :: rest => skipItems fuel rest
    | ']' :: rest => .ok rest
    | _ => .error .malformed

/-- Skip the fields of an object up to its end. -/
def skipFields : Nat → List Char → Except Failure (List Char)
  | 0, _ => .error .unfinished
  | fuel + 1, cs => do
    match skipSpace cs with
    | [] => .error .unfinished
    | '"' :: rest =>
      match skipSpace (← skipStringFrom (rest.length + 1) rest) with
      | [] => .error .unfinished
      | ':' :: rest =>
        match skipSpace (← skipValue fuel rest) with
        | [] => .error .unfinished
        | ',' :: rest => skipFields fuel rest
        | '\x7d' :: rest => .ok rest
        | _ => .error .malformed
      | _ => .error .malformed
    | _ => .error .malformed

end

end Testbed.Json
