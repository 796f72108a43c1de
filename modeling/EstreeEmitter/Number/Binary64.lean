set_option autoImplicit false

/-! # Numbers of 64-bit binary floating point

A finite number is `± significand · 2 ^ exponent`. In the numbers built here the significand is
below `2 ^ 53` and the exponent is at least `-1074`; the significand reaches `2 ^ 52` unless the
exponent is the least one. Reading a decimal rounds to the nearest such number, ties to an even
significand, and overflows to an infinity. All arithmetic is exact, on natural numbers. -/

namespace EstreeEmitter

/-- A floating-point number of 64 bits. -/
inductive Binary64 where
  | nan
  | infinite (negative : Bool)
  | finite (negative : Bool) (significand : Nat) (exponent : Int)
  deriving DecidableEq, Repr

namespace Binary64

/-- The least exponent. -/
def minExponent : Int := -1074

/-- The greatest exponent. -/
def maxExponent : Int := 971

/-- The zero of a sign. -/
def zero (negative : Bool) : Binary64 := .finite negative 0 minExponent

/-- The quotient `num / den` rounded to the nearest natural number, a half to the even one. -/
def roundDiv (num den : Nat) : Nat :=
  let q := num / den
  let r := num % den
  if 2 * r < den then q
  else if den < 2 * r then q + 1
  else if q % 2 == 0 then q else q + 1

/-- The fraction `num / den` scaled by `2 ^ (-e)`, as numerator and denominator. -/
def scaled (num den : Nat) (e : Int) : Nat × Nat :=
  if 0 ≤ e then (num, den * Nat.pow 2 e.toNat) else (num * Nat.pow 2 (-e).toNat, den)

/-- The number nearest to the positive fraction `num / den`. -/
def ofFraction (negative : Bool) (num den : Nat) : Binary64 :=
  let guess : Int := (num.log2 : Int) - den.log2 - 52
  let (n, d) := scaled num den guess
  let e := max (if n / d < Nat.pow 2 52 then guess - 1 else guess) minExponent
  let (n, d) := scaled num den e
  let q := roundDiv n d
  let (q, e) := if q == Nat.pow 2 53 then (Nat.pow 2 52, e + 1) else (q, e)
  if maxExponent < e then .infinite negative else .finite negative q e

/-- The number of decimal digits. -/
def digitCount (n : Nat) : Nat := (Nat.toDigits 10 n).length

/-- The number nearest to `± digits · 10 ^ power`. -/
def ofDecimal (negative : Bool) (digits : Nat) (power : Int) : Binary64 :=
  if digits == 0 then zero negative
  else if 310 < power + digitCount digits then .infinite negative
  else if power + digitCount digits < -330 then zero negative
  else if 0 ≤ power then ofFraction negative (digits * Nat.pow 10 power.toNat) 1
  else ofFraction negative digits (Nat.pow 10 (-power).toNat)

/-- Zero of either sign. -/
def isZero : Binary64 → Bool
  | .finite _ 0 _ => true
  | _ => false

/-- The integer part, toward zero; `none` for what is not finite. -/
def truncate? : Binary64 → Option Int
  | .finite negative m e =>
    let n : Nat := if 0 ≤ e then m * Nat.pow 2 e.toNat else m / Nat.pow 2 (-e).toNat
    some (if negative then -(n : Int) else n)
  | _ => none

/-- The number is the integer `n`. -/
def isInt (x : Binary64) (n : Int) : Bool :=
  match x with
  | .finite negative m e =>
    let num : Nat := if 0 ≤ e then m * Nat.pow 2 e.toNat else m
    let den : Nat := if 0 ≤ e then 1 else Nat.pow 2 (-e).toNat
    (if negative then -(num : Int) else num) == n * den
  | _ => false

end Binary64

end EstreeEmitter
