/-!
# Binary floating-point numbers

A finite number of the binary64 format is `± mantissa · 2 ^ exponent`, held exactly. Numbers enter
by rounding an exact quotient to the nearest representable one, a tie going to the even neighbour,
so what is read here is what an IEEE reader reads; numbers beyond the largest become infinite.

The mantissa of a number made by `ofQuotient` is odd or zero, so equal numbers are equal data.
-/

namespace VendorLaunch

/-- A number of the binary64 format. -/
inductive Binary64 where
  /-- `± mantissa · 2 ^ exponent`. -/
  | finite (negative : Bool) (mantissa : Nat) (exponent : Int)
  /-- An infinity. -/
  | infinite (negative : Bool)
  /-- Not a number. -/
  | nan
  deriving DecidableEq, Repr

namespace Binary64

/-- Moves factors two from the mantissa to the exponent. -/
def reduce (m : Nat) (e : Int) : Nat × Int :=
  if m = 0 then (0, 0)
  else if m % 2 = 0 then reduce (m / 2) (e + 1)
  else (m, e)
termination_by m
decreasing_by omega

/-- The quotient rounded to the nearest natural number, a tie to the even one. -/
def roundDiv (num den : Nat) : Nat :=
  let q := num / den
  let r := num % den
  if 2 * r < den then q
  else if den < 2 * r then q + 1
  else q + q % 2

/-- `num / den` over `2 ^ e`, as a quotient of natural numbers. -/
def overPower (num den : Nat) (e : Int) : Nat × Nat :=
  if 0 ≤ e then (num, den * Nat.pow 2 e.toNat) else (num * Nat.pow 2 (-e).toNat, den)

/-- The exponent of the largest power of two that is at most `num / den`. -/
def floorLog (num den : Nat) : Int :=
  let l : Int := (num.log2 : Int) - den.log2
  let (n, d) := overPower num den l
  if n < d then l - 1 else l

/-- The number nearest to `± num / den`, for a positive `den`. -/
def ofQuotient (negative : Bool) (num den : Nat) : Binary64 :=
  if num = 0 then finite negative 0 0
  else
    let e := max (floorLog num den - 52) (-1074)
    let (n, d) := overPower num den e
    let m := roundDiv n d
    if 1024 ≤ (m.log2 : Int) + e then infinite negative
    else
      let (m, e) := reduce m e
      finite negative m e

/-- The number nearest to `± digits · 10 ^ exponent`. An exponent far outside the format decides
the answer without computing the power. -/
def ofDecimal (negative : Bool) (digits : Nat) (exponent : Int) : Binary64 :=
  let size : Int := (digits.log2 : Int) / 3 + 1 + exponent
  if digits = 0 || size < -400 then finite negative 0 0
  else if 400 < exponent then infinite negative
  else if 0 ≤ exponent then ofQuotient negative (digits * Nat.pow 10 exponent.toNat) 1
  else ofQuotient negative digits (Nat.pow 10 (-exponent).toNat)

/-- The number nearest to an integer. -/
def ofInt (i : Int) : Binary64 := ofQuotient (i < 0) i.natAbs 1

/-- The number with the opposite sign. -/
def neg : Binary64 → Binary64
  | finite s m e => finite (!s) m e
  | infinite s => infinite (!s)
  | nan => nan

/-- The value times `2 ^ 1074`, an integer for every finite number. -/
def scaled (s : Bool) (m : Nat) (e : Int) : Int :=
  let v : Int := (m * Nat.pow 2 (e + 1074).toNat : Nat)
  if s then -v else v

/-- The sum, rounded. -/
def add : Binary64 → Binary64 → Binary64
  | finite s m e, finite t n f =>
    let v := scaled s m e + scaled t n f
    if v = 0 then finite (s && t) 0 0 else ofQuotient (v < 0) v.natAbs (Nat.pow 2 1074)
  | infinite s, infinite t => if s = t then infinite s else nan
  | infinite s, finite .. => infinite s
  | finite .., infinite t => infinite t
  | _, _ => nan

/-- The product with a natural number, rounded. -/
def mulNat (k : Nat) : Binary64 → Binary64
  | finite s m e => ofQuotient s (scaled false m e * k).natAbs (Nat.pow 2 1074)
  | infinite s => if k = 0 then nan else infinite s
  | nan => nan

/-- The integer part of a finite number, the fraction cut off. -/
def truncate? : Binary64 → Option Int
  | finite s m e =>
    let v : Nat := if 0 ≤ e then m * Nat.pow 2 e.toNat else m / Nat.pow 2 (-e).toNat
    some (if s then -v else v)
  | _ => none

/-- The integer that the number is. -/
def toInt? : Binary64 → Option Int
  | finite s m e =>
    let (m, e) := reduce m e
    if 0 ≤ e then
      let v : Nat := m * Nat.pow 2 e.toNat
      some (if s then -v else v)
    else none
  | _ => none

/-- Whether the number is zero, of either sign. -/
def isZero : Binary64 → Bool
  | finite _ m _ => m == 0
  | _ => false

/-- Whether the number is below zero. -/
def isNegative : Binary64 → Bool
  | finite s m _ => s && m != 0
  | infinite s => s
  | nan => false

end Binary64

end VendorLaunch
