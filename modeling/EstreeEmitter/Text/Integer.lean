import EstreeEmitter.Text.Blank
import EstreeEmitter.Text.Digit

set_option autoImplicit false

/-! # Integers in text -/

namespace EstreeEmitter.Text

/-- The greatest number of digits that an integer in text may have. -/
def maxDigits : Nat := 4300

/-- Digits with at most one low line between two of them; `none` when the row is empty or ends or
starts with a low line. -/
def groupedDigits? : List Char → Option (List Char)
  | [] => none
  | [c] => if isDecimal c then some [c] else none
  | c :: '_' :: cs => if isDecimal c then (groupedDigits? cs).map (c :: ·) else none
  | c :: cs => if isDecimal c then (groupedDigits? cs).map (c :: ·) else none

/-- A blank that may stand around an integer: any but the four record separators. -/
def isMarginBlank (c : Char) : Bool := if c.toNat < 0x80 then isAsciiBlank c else isBlank c

/-- The integer that a text denotes: a sign, decimal digits that may be grouped by low lines, and
blanks around it. -/
def integer? (cs : List Char) : Option Int :=
  let body := ((cs.dropWhile isMarginBlank).reverse.dropWhile isMarginBlank).reverse
  let (negative, digits) : Bool × List Char :=
    match body with
    | '-' :: rest => (true, rest)
    | '+' :: rest => (false, rest)
    | rest => (false, rest)
  do
    let row ← groupedDigits? digits
    let n ← if row.length ≤ maxDigits then decimalNumber? row else none
    return if negative then -(n : Int) else n

end EstreeEmitter.Text
