import EstreeEmitter.Number.Binary64

set_option autoImplicit false

/-! # The shortest decimal of a floating-point number

Of all decimals that read back as a given number, take those with the fewest digits, and of these
the nearest to the number; a tie goes to an even last digit. `Binary64.text` writes that decimal:
positional while the decimal exponent lies between -4 and 15, with an exponent otherwise. -/

namespace EstreeEmitter

namespace Binary64

/-- A positive decimal `digits · 10 ^ power`. -/
structure Decimal where
  digits : Nat
  power : Int
  deriving DecidableEq, Repr

/-- The decimal without zeros at the end of its digits; `fuel` bounds their number. -/
def Decimal.strip : Nat → Decimal → Decimal
  | 0, d => d
  | fuel + 1, d =>
    if d.digits % 10 == 0 && d.digits != 0 then strip fuel ⟨d.digits / 10, d.power + 1⟩ else d

/-- The fraction `num / den` is at most (or, if `strict`, below) the fraction `num' / den'`. -/
def fractionLe (strict : Bool) (num den num' den' : Nat) : Bool :=
  if strict then num * den' < num' * den else num * den' ≤ num' * den

/-- The positive number `c · 10 ^ k` as a fraction. -/
def decimalFraction (c : Nat) (k : Int) : Nat × Nat :=
  if 0 ≤ k then (c * Nat.pow 10 k.toNat, 1) else (c, Nat.pow 10 (-k).toNat)

/-- The greatest `p` with `10 ^ p ≤ num / den`, for a positive fraction that is no power of ten
below one. -/
def magnitude (num den : Nat) : Int :=
  if den ≤ num then (digitCount (num / den) : Int) - 1 else -(digitCount (den / num) : Int)

/-- The decimals that read back as `m · 2 ^ e` form an interval; `below` and `above` are its ends
as fractions, and `strict` tells that the ends do not belong to it. -/
structure Interval where
  value : Nat × Nat
  below : Nat × Nat
  above : Nat × Nat
  strict : Bool

/-- The interval of the reals that round to `m · 2 ^ e`, for a positive `m`. -/
def interval (m : Nat) (e : Int) : Interval :=
  let at4 (n : Nat) : Nat × Nat :=
    if 2 ≤ e then (n * Nat.pow 2 (e - 2).toNat, 1) else (n, Nat.pow 2 (2 - e).toNat)
  let gap := if m == Nat.pow 2 52 && minExponent < e then 1 else 2
  { value := at4 (4 * m), below := at4 (4 * m - gap), above := at4 (4 * m + 2)
    strict := m % 2 == 1 }

/-- The nearest decimal with the power `k` inside the interval, if one lies there. -/
def nearestOn (i : Interval) (k : Int) : Option Nat :=
  let (num, den) := i.value
  let (n, d) :=
    if 0 ≤ k then (num, den * Nat.pow 10 k.toNat) else (num * Nat.pow 10 (-k).toNat, den)
  let low := n / d
  let inside (c : Nat) : Bool :=
    let (a, b) := decimalFraction c k
    fractionLe i.strict i.below.1 i.below.2 a b && fractionLe i.strict a b i.above.1 i.above.2
  let rest := n % d
  match inside low && low != 0, inside (low + 1) with
  | true, true =>
    if 2 * rest < d then some low
    else if d < 2 * rest then some (low + 1)
    else if low % 2 == 0 then some low else some (low + 1)
  | true, false => some low
  | false, true => some (low + 1)
  | false, false => none

/-- Tries ever finer grids until one meets the interval. -/
def scanGrids (i : Interval) : Nat → Int → Decimal
  | 0, k => ⟨(nearestOn i k).getD 0, k⟩
  | fuel + 1, k =>
    match nearestOn i k with
    | some c => ⟨c, k⟩
    | none => scanGrids i fuel (k - 1)

/-- The shortest decimal that reads back as `m · 2 ^ e`, for a positive `m`. -/
def shortest (m : Nat) (e : Int) : Decimal :=
  let i := interval m e
  (scanGrids i 17 (magnitude i.value.1 i.value.2)).strip 20

/-- The exponent of a decimal in text: a sign and at least two digits. -/
def exponentText (n : Int) : String :=
  let digits := toString n.natAbs
  (if n < 0 then "e-" else "e+") ++ (if digits.length < 2 then "0" ++ digits else digits)

/-- A positive decimal in text. -/
def Decimal.text (d : Decimal) : String :=
  let digits := Nat.toDigits 10 d.digits
  let point : Int := digits.length + d.power
  if point ≤ -4 || 16 < point then
    match digits with
    | [] => ""
    | [c] => String.ofList [c] ++ exponentText (point - 1)
    | c :: cs => String.ofList (c :: '.' :: cs) ++ exponentText (point - 1)
  else if point ≤ 0 then
    "0." ++ String.ofList (List.replicate (-point).toNat '0' ++ digits)
  else if digits.length ≤ point.toNat then
    String.ofList (digits ++ List.replicate (point.toNat - digits.length) '0') ++ ".0"
  else
    String.ofList (digits.take point.toNat ++ '.' :: digits.drop point.toNat)

/-- The words for what is not a finite number. -/
structure Words where
  nan : String
  infinity : String

/-- A number in text; what is not finite is spelled by `words`. -/
def text (words : Words) : Binary64 → String
  | .nan => words.nan
  | .infinite negative => (if negative then "-" else "") ++ words.infinity
  | .finite negative m e =>
    (if negative then "-" else "") ++ if m == 0 then "0.0" else (shortest m e).text

end Binary64

end EstreeEmitter
