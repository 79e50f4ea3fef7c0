/-!
# Numbers of the binary64 format

A value of the format is kept as a sign, a whole mantissa and a power of two, so that rounding
and printing are arithmetic on natural numbers. `ofRatio` rounds a ratio to the nearest value,
ties to the even mantissa; `Binary64.text` writes the fewest digits that read back, without an
exponent.
-/

namespace Testbed

/-- A value of the binary64 format; a finite one is `mantissa · 2^exponent` with its sign, with
a mantissa below `2^53` and an exponent of at least `-1074`. -/
inductive Binary64
  | nan
  | infinite (negative : Bool)
  | finite (negative : Bool) (mantissa : Nat) (exponent : Int)
  deriving DecidableEq

namespace Binary64

/-! ## Rounding -/

/-- Round `num / den` to the nearest whole number, a half to the even neighbour. -/
def roundHalfEven (num den : Nat) : Nat :=
  let q := num / den
  let r := num % den
  if 2 * r < den then q
  else if den < 2 * r then q + 1
  else if q % 2 = 0 then q else q + 1

/-- The ratio `num / den` divided by `2^e`, as a ratio. -/
def scaleDown (num den : Nat) (e : Int) : Nat × Nat :=
  if 0 ≤ e then (num, den * Nat.pow 2 e.toNat) else (num * Nat.pow 2 (-e).toNat, den)

/-- The exponent at which the ratio has a mantissa of 53 bits, or the least exponent of the
format. -/
def exponentFor (num den : Nat) : Int :=
  let e : Int := max ((num.log2 : Int) - den.log2 - 53) (-1074)
  let (n, d) := scaleDown num den e
  if Nat.pow 2 53 ≤ n / d then e + 1 else e

/-- The value nearest to `num / den`; infinite where it is beyond the format. -/
def ofRatio (negative : Bool) (num den : Nat) : Binary64 :=
  if num = 0 then .finite negative 0 (-1074) else
  let e := exponentFor num den
  let (n, d) := scaleDown num den e
  let m := roundHalfEven n d
  let (m, e) := if m = Nat.pow 2 53 then (Nat.pow 2 52, e + 1) else (m, e)
  if 971 < e then .infinite negative else .finite negative m e

/-- The value nearest to `digits · 10^exponent`. Beyond `10^400` and below `10^-400` no digits
are needed to see that the value is infinite or zero. -/
def ofDecimal (negative : Bool) (digits : Nat) (exponent : Int) : Binary64 :=
  if digits = 0 ∨ exponent + (toString digits).length < -400 then .finite negative 0 (-1074)
  else if 400 < exponent then .infinite negative
  else if 0 ≤ exponent then ofRatio negative (digits * Nat.pow 10 exponent.toNat) 1
  else ofRatio negative digits (Nat.pow 10 (-exponent).toNat)

/-- Whether the value is zero, of either sign. -/
def isZero : Binary64 → Bool
  | finite _ 0 _ => true
  | _ => false

/-- The opposite value. -/
def neg : Binary64 → Binary64
  | nan => nan
  | infinite s => infinite !s
  | finite s m e => finite (!s) m e

/-- A finite value as a ratio, without its sign. -/
def ratio (mantissa : Nat) (exponent : Int) : Nat × Nat :=
  if 0 ≤ exponent then (mantissa * Nat.pow 2 exponent.toNat, 1)
  else (mantissa, Nat.pow 2 (-exponent).toNat)

/-- The product with a power of ten that the format holds, rounded. -/
def timesPowerOfTen (x : Binary64) (k : Nat) : Binary64 :=
  match x, ofDecimal false 1 k with
  | finite s m e, finite _ m' e' =>
    let (n, d) := ratio m e
    let (n', d') := ratio m' e'
    ofRatio s (n * n') (d * d')
  | x, _ => x

/-- The quotient by a power of ten that the format holds, rounded. -/
def overPowerOfTen (x : Binary64) (k : Nat) : Binary64 :=
  match x, ofDecimal false 1 k with
  | finite s m e, finite _ m' e' =>
    let (n, d) := ratio m e
    let (n', d') := ratio m' e'
    ofRatio s (n * d') (d * n')
  | x, _ => x

/-! ## The fewest digits -/

/-- Whether `num / den` lies among the reals that round to `mantissa · 2^exponent`. The interval
reaches half a unit up and, at a power of two, a quarter down; its ends belong to it if the
mantissa is even. -/
def roundsTo (mantissa : Nat) (exponent : Int) (num den : Nat) : Bool :=
  -- all ends in quarters of the unit `2^exponent`
  let (n, d) := scaleDown (4 * num) den exponent
  let low := 4 * mantissa - (if mantissa = Nat.pow 2 52 ∧ -1074 < exponent then 1 else 2)
  let high := 4 * mantissa + 2
  if mantissa % 2 = 0 then low * d ≤ n && n ≤ high * d else low * d < n && n < high * d

/-- The power of ten of the leading digit of a positive ratio, found from below. -/
def leadingPower (num den : Nat) : Nat → Int → Int
  | 0, k => k
  | fuel + 1, k =>
    -- is `num / den` at least `10^(k+1)`?
    let reached := if 0 ≤ k + 1 then den * Nat.pow 10 (k + 1).toNat ≤ num
      else den ≤ num * Nat.pow 10 (-(k + 1)).toNat
    if reached then leadingPower num den fuel (k + 1) else k

/-- The digits and power of ten of the shortest decimal, tried from `count` digits on. -/
def shortestFrom (mantissa : Nat) (exponent : Int) (lead : Int) : Nat → Nat → Nat × Int
  | 0, _ => (0, 0)
  | fuel + 1, count =>
    let (num, den) := ratio mantissa exponent
    let power : Int := lead + 1 - count
    let (n, d) := if 0 ≤ power then (num, den * Nat.pow 10 power.toNat)
      else (num * Nat.pow 10 (-power).toNat, den)
    let below := n / d
    let fits := fun q : Nat =>
      if 0 ≤ power then roundsTo mantissa exponent (q * Nat.pow 10 power.toNat) 1
      else roundsTo mantissa exponent q (Nat.pow 10 (-power).toNat)
    let nearest := roundHalfEven n d
    if fits nearest then (nearest, power)
    else if fits below then (below, power)
    else if fits (below + 1) then (below + 1, power)
    else shortestFrom mantissa exponent lead fuel (count + 1)

/-- The shortest decimal of a finite value other than zero: its digits and their power of ten. -/
def shortest (mantissa : Nat) (exponent : Int) : Nat × Int :=
  let (num, den) := ratio mantissa exponent
  shortestFrom mantissa exponent (leadingPower num den 700 (-330)) 18 1

/-! ## Notations -/

/-- Digits without an exponent; there is always a point with a digit after it. -/
def positional (digits : Nat) (power : Int) : String :=
  if 0 ≤ power then s!"{digits * Nat.pow 10 power.toNat}.0"
  else
    let places := (-power).toNat
    let whole := digits / Nat.pow 10 places
    let part := (toString (digits % Nat.pow 10 places)).toList
    s!"{whole}." ++ String.ofList (List.replicate (places - part.length) '0' ++ part)

/-- Digits with the point after the first and an exponent. -/
def scientific (digits : Nat) (power : Int) : String :=
  let ds := (toString digits).toList
  let exponent := power + ds.length - 1
  match ds with
  | [d] => s!"{d}e{exponent}"
  | d :: rest => s!"{d}." ++ String.ofList rest ++ s!"e{exponent}"
  | [] => ""

/-- Write a value, given how a finite one other than zero is written without its sign. -/
def write (digits : Nat → Int → String) : Binary64 → String
  | nan => "NaN"
  | infinite s => if s then "-inf" else "inf"
  | finite s m e =>
    let body := if m = 0 then "0.0" else
      let d := shortest m e
      digits d.1 d.2
    if s then "-" ++ body else body

/-- A value without an exponent, however long. -/
def text (x : Binary64) : String := x.write positional

/-- A value with an exponent where the point would stand more than 16 digits after the first, or
more than 5 places before it. -/
def shortText (x : Binary64) : String := x.write fun digits power =>
  let point := power + (toString digits).length
  if -5 < point ∧ point ≤ 16 then positional digits power else scientific digits power

end Binary64

end Testbed
