import EstreeEmitter.Assoc
import EstreeEmitter.Json.Basic
import EstreeEmitter.Text.Integer

set_option autoImplicit false

/-! # Reading JSON text

`Json.parse` reads one value with white space (space, tab, line feed, carriage return) around it.
The words `NaN`, `Infinity` and `-Infinity` are numbers. Of a repeated key the last value counts,
at the place of the first. What is wrong is told with the place where it shows. -/

namespace EstreeEmitter

namespace Json

/-- What is wrong in a JSON text. -/
inductive Problem where
  | value
  | comma
  | colon
  | key
  | extra
  | unterminated
  | control
  | escape
  | unicodeEscape
  | byteOrderMark
  | tooManyDigits (count : Nat)
  deriving DecidableEq, Repr

/-- A problem and the place of the character where it shows. -/
structure Error where
  problem : Problem
  place : Nat
  deriving DecidableEq, Repr

/-- A problem in words. -/
def Problem.message : Problem → String
  | .value => "Expecting value"
  | .comma => "Expecting ',' delimiter"
  | .colon => "Expecting ':' delimiter"
  | .key => "Expecting property name enclosed in double quotes"
  | .extra => "Extra data"
  | .unterminated => "Unterminated string starting at"
  | .control => "Invalid control character at"
  | .escape => "Invalid \\escape"
  | .unicodeEscape => "Invalid \\uXXXX escape"
  | .byteOrderMark => "Unexpected UTF-8 BOM (decode using utf-8-sig)"
  | .tooManyDigits count =>
    s!"Exceeds the limit ({Text.maxDigits} digits) for integer string conversion: " ++
      s!"value has {count} digits; use sys.set_int_max_str_digits() to increase the limit"

/-- The line, counted from one, of a place in a text. -/
def lineOf (cs : List Char) (place : Nat) : Nat := (cs.take place).count '\n' + 1

/-- The column, counted from one, of a place in a text. -/
def columnOf (cs : List Char) (place : Nat) : Nat :=
  ((cs.take place).reverse.takeWhile (· != '\n')).length + 1

/-- An error in words, for the text in which it occurred. -/
def Error.message (e : Error) (cs : List Char) : String :=
  match e.problem with
  | .tooManyDigits count => (Problem.tooManyDigits count).message
  | p => s!"{p.message}: line {lineOf cs e.place} column {columnOf cs e.place} (char {e.place})"

/-- White space between tokens. -/
def isSpace (c : Char) : Bool := c == ' ' || c == '\t' || c == '\n' || c == '\r'

/-- The rest of a text with the place at which it starts. -/
structure Rest where
  place : Nat
  chars : List Char

/-- The rest after `n` more characters. -/
def Rest.skip (r : Rest) (n : Nat) : Rest := ⟨r.place + n, r.chars.drop n⟩

/-- The rest after white space. -/
def Rest.skipSpace (r : Rest) : Rest :=
  ⟨r.place + (r.chars.takeWhile isSpace).length, r.chars.dropWhile isSpace⟩

/-- The value of a digit of base sixteen. -/
def hexValue? (c : Char) : Option Nat :=
  if '0' ≤ c && c ≤ '9' then some (c.toNat - 0x30)
  else if 'a' ≤ c && c ≤ 'f' then some (c.toNat - 0x61 + 10)
  else if 'A' ≤ c && c ≤ 'F' then some (c.toNat - 0x41 + 10)
  else none

/-- The number that a row of digits of base sixteen denotes. -/
def hexNumber? (cs : List Char) : Option Nat :=
  cs.foldl (fun n c => do return (← n) * 16 + (← hexValue? c)) (some 0)

/-- The character of a one-letter escape. -/
def shortEscape? (c : Char) : Option Char :=
  if c == '"' || c == '\\' || c == '/' then some c
  else if c == 'b' then some '\x08'
  else if c == 'f' then some '\x0c'
  else if c == 'n' then some '\n'
  else if c == 'r' then some '\r'
  else if c == 't' then some '\t'
  else none

/-- The character that a UTF-16 unit stands for by itself. A unit of a pair stands for no
character; alone it is read as the replacement character. -/
def unitChar (n : Nat) : Char :=
  if 0xD800 ≤ n && n ≤ 0xDFFF then '\ufffd' else Char.ofNat n

/-- Four digits of base sixteen that are followed by at least one more character. -/
def fourDigits? : List Char → Option Nat
  | a :: b :: c :: d :: _ :: _ => hexNumber? [a, b, c, d]
  | _ => none

/-- The second half of a pair of UTF-16 units: `none` when no second unit is written here, and an
error when one is announced but not well formed. The text starts behind the first unit at
`place`. -/
def lowUnit? (place : Nat) : List Char → Except Error (Option Nat)
  | '\\' :: 'u' :: a :: b :: c :: d :: _ :: _ =>
    match hexNumber? [a, b, c, d] with
    | some n => .ok (if 0xDC00 ≤ n && n ≤ 0xDFFF then some n else none)
    | none => .error ⟨.unicodeEscape, place + 1⟩
  | _ => .ok none

/-- The rest of a quoted text that was opened at `start`: its characters and what follows the
closing quote. `out` holds the characters read so far, last first; `skip` characters at the front
belong to an escape already read. -/
def stringRest (start : Nat) (out : List Char) :
    Nat → Nat → List Char → Except Error (List Char × Rest)
  | _, _, [] => .error ⟨.unterminated, start⟩
  | place, skip + 1, _ :: cs => stringRest start out (place + 1) skip cs
  | place, 0, c :: cs =>
    if c == '"' then .ok (out.reverse, ⟨place + 1, cs⟩)
    else if c == '\\' then
      match cs with
      | [] => .error ⟨.unterminated, start⟩
      | 'u' :: ds =>
        match fourDigits? ds with
        | none => .error ⟨.unicodeEscape, place + 1⟩
        | some n =>
          if 0xD800 ≤ n && n ≤ 0xDBFF then
            match lowUnit? (place + 6) (ds.drop 4) with
            | .error e => .error e
            | .ok (some m) =>
              let pair := Char.ofNat (0x10000 + (n - 0xD800) * 0x400 + (m - 0xDC00))
              stringRest start (pair :: out) (place + 1) 11 cs
            | .ok none => stringRest start (unitChar n :: out) (place + 1) 5 cs
          else stringRest start (unitChar n :: out) (place + 1) 5 cs
      | d :: _ =>
        match shortEscape? d with
        | none => .error ⟨.escape, place⟩
        | some e => stringRest start (e :: out) (place + 1) 1 cs
    else if c.toNat < 0x20 then .error ⟨.control, place⟩
    else stringRest start (c :: out) (place + 1) 0 cs

/-- The number that a row of ASCII digits denotes. -/
def digitsValue (cs : List Char) : Nat := cs.foldl (fun n c => n * 10 + (c.toNat - 0x30)) 0

/-- The integer digits at the front: a single zero, or digits without a leading zero. -/
def integerDigits : List Char → List Char
  | '0' :: _ => ['0']
  | cs => cs.takeWhile Char.isDigit

/-- The fraction digits behind a leading point; none when no digit follows the point. -/
def fractionDigits : List Char → List Char
  | '.' :: cs => cs.takeWhile Char.isDigit
  | _ => []

/-- An exponent at the front: its value and its length in characters. -/
def exponent? : List Char → Option (Int × Nat)
  | c :: cs =>
    if c == 'e' || c == 'E' then
      let (negative, sign, ds) : Bool × Nat × List Char :=
        match cs with
        | '-' :: ds => (true, 1, ds)
        | '+' :: ds => (false, 1, ds)
        | ds => (false, 0, ds)
      let digits := ds.takeWhile Char.isDigit
      if digits.isEmpty then none
      else
        let n : Int := digitsValue digits
        some (if negative then -n else n, 1 + sign + digits.length)
    else none
  | [] => none

/-- A number at the front. -/
def number (r : Rest) : Except Error (Scalar × Rest) :=
  let (negative, cs) : Bool × List Char :=
    match r.chars with
    | '-' :: cs => (true, cs)
    | cs => (false, cs)
  let digits := integerDigits cs
  if digits.isEmpty then .error ⟨.value, r.place⟩
  else
    let afterDigits := cs.drop digits.length
    let fraction := fractionDigits afterDigits
    let fractionLength := if fraction.isEmpty then 0 else fraction.length + 1
    let power := exponent? (afterDigits.drop fractionLength)
    let length :=
      (if negative then 1 else 0) + digits.length + fractionLength + (power.map (·.2)).getD 0
    if fraction.isEmpty && power.isNone then
      if Text.maxDigits < digits.length then .error ⟨.tooManyDigits digits.length, r.place⟩
      else
        let n : Int := digitsValue digits
        .ok (.int (if negative then -n else n), r.skip length)
    else
      let x := Binary64.ofDecimal negative (digitsValue (digits ++ fraction))
        ((power.map (·.1)).getD 0 - fraction.length)
      .ok (.real x, r.skip length)

/-- The values that are written as a word. -/
def wordValues : List (List Char × Scalar) :=
  [("null".toList, .null), ("true".toList, .bool true), ("false".toList, .bool false),
    ("NaN".toList, .real .nan), ("Infinity".toList, .real (.infinite false)),
    ("-Infinity".toList, .real (.infinite true))]

/-- A word or a number at the front. -/
def plain (r : Rest) : Except Error (Scalar × Rest) :=
  match wordValues.find? fun w => w.1.isPrefixOf r.chars with
  | some (w, s) => .ok (s, r.skip w.length)
  | none => number r

mutual

/-- A value at the front. Each call of these functions passes over a character before the next one,
but for the call that reads an item of an array as a value; so two steps of `fuel` for each
character, and one more, are enough. -/
def value : Nat → Rest → Except Error (Json × Rest)
  | 0, r => .error ⟨.value, r.place⟩
  | fuel + 1, r =>
    match r.chars with
    | [] => .error ⟨.value, r.place⟩
    | '"' :: cs => do
      let (s, rest) ← stringRest r.place [] (r.place + 1) 0 cs
      return (ofChars s, rest)
    | '\x7b' :: _ =>
      let inner := (r.skip 1).skipSpace
      match inner.chars with
      | '\x7d' :: _ => .ok (.obj [], inner.skip 1)
      | _ => do
        let (members, rest) ← objectRest fuel [] inner
        return (.obj members, rest)
    | '[' :: _ =>
      let inner := (r.skip 1).skipSpace
      match inner.chars with
      | ']' :: _ => .ok (.arr [], inner.skip 1)
      | _ => do
        let (items, rest) ← arrayRest fuel inner
        return (.arr items, rest)
    | _ => do
      let (s, rest) ← plain r
      return (.scalar s, rest)

/-- The items of an array from the next item to the closing bracket. -/
def arrayRest : Nat → Rest → Except Error (List Json × Rest)
  | 0, r => .error ⟨.value, r.place⟩
  | fuel + 1, r => do
    let (item, rest) ← value fuel r
    let rest := rest.skipSpace
    match rest.chars with
    | ']' :: _ => return ([item], rest.skip 1)
    | ',' :: _ => do
      let (items, rest) ← arrayRest fuel (rest.skip 1).skipSpace
      return (item :: items, rest)
    | _ => .error ⟨.comma, rest.place⟩

/-- The members of an object from the next key to the closing brace, put to those read before. -/
def objectRest : Nat → List (String × Json) → Rest → Except Error (List (String × Json) × Rest)
  | 0, _, r => .error ⟨.value, r.place⟩
  | fuel + 1, members, r =>
    match r.chars with
    | '"' :: cs => do
      let (k, rest) ← stringRest r.place [] (r.place + 1) 0 cs
      let rest := rest.skipSpace
      match rest.chars with
      | ':' :: _ => do
        let (v, rest) ← value fuel (rest.skip 1).skipSpace
        let members := Assoc.put (String.ofList k) v members
        let rest := rest.skipSpace
        match rest.chars with
        | '\x7d' :: _ => return (members, rest.skip 1)
        | ',' :: _ => objectRest fuel members (rest.skip 1).skipSpace
        | _ => .error ⟨.comma, rest.place⟩
      | _ => .error ⟨.colon, rest.place⟩
    | _ => .error ⟨.key, r.place⟩

end

/-- Reads a JSON text. -/
def parse (cs : List Char) : Except Error Json :=
  match cs with
  | '\ufeff' :: _ => .error ⟨.byteOrderMark, 0⟩
  | _ => do
    let (j, rest) ← value (2 * cs.length + 1) (Rest.skipSpace ⟨0, cs⟩)
    let rest := rest.skipSpace
    if rest.chars.isEmpty then return j else .error ⟨.extra, rest.place⟩

end Json

end EstreeEmitter
