import EstreeEmitter.Json.Basic
import EstreeEmitter.Number.Shortest

set_option autoImplicit false

/-! # JSON text

Members and items are separated by a comma and a space, a key and its value by a colon and a
space. Text is quoted with the short escapes where there are any; with `ascii`, the delete
character and every character beyond it are escaped in UTF-16 units as well. -/

namespace EstreeEmitter

/-- A digit of base sixteen, in lower case. -/
def hexDigit (n : Nat) : Char :=
  if n < 10 then Char.ofNat (0x30 + n) else Char.ofNat (0x61 + (n - 10))

/-- The last `width` digits of a number in base sixteen. -/
def hexText : Nat → Nat → List Char
  | 0, _ => []
  | width + 1, n => hexText width (n / 16) ++ [hexDigit (n % 16)]

namespace Json

/-- A UTF-16 unit as an escape. -/
def unitEscape (n : Nat) : List Char := '\\' :: 'u' :: hexText 4 n

/-- A character inside a quoted text. -/
def quoteChar (ascii : Bool) (c : Char) : List Char :=
  if c == '"' then ['\\', '"']
  else if c == '\\' then ['\\', '\\']
  else if c == '\n' then ['\\', 'n']
  else if c == '\r' then ['\\', 'r']
  else if c == '\t' then ['\\', 't']
  else if c == '\x08' then ['\\', 'b']
  else if c == '\x0c' then ['\\', 'f']
  else if c.toNat < 0x20 then unitEscape c.toNat
  else if ascii && 0x7E < c.toNat then
    if c.toNat < 0x10000 then unitEscape c.toNat
    else
      unitEscape (0xD800 + (c.toNat - 0x10000) / 0x400) ++
        unitEscape (0xDC00 + (c.toNat - 0x10000) % 0x400)
  else [c]

/-- A text in double quotes. -/
def quote (ascii : Bool) (cs : List Char) : List Char :=
  '"' :: cs.flatMap (quoteChar ascii) ++ ['"']

/-- The words for what is not a finite number. -/
def words : Binary64.Words := ⟨"NaN", "Infinity"⟩

/-- A scalar in text. -/
def scalarText (ascii : Bool) : Scalar → List Char
  | .null => "null".toList
  | .bool true => "true".toList
  | .bool false => "false".toList
  | .int n => (toString n).toList
  | .real x => (x.text words).toList
  | .str s => quote ascii s.toList

mutual

/-- A value in text. -/
def text (ascii : Bool) : Json → List Char
  | .scalar s => scalarText ascii s
  | .arr items => '[' :: itemsText ascii items ++ [']']
  | .obj members => '\x7b' :: membersText ascii members ++ ['\x7d']

/-- Items with a comma and a space between them. -/
def itemsText (ascii : Bool) : List Json → List Char
  | [] => []
  | [j] => text ascii j
  | j :: rest => text ascii j ++ ',' :: ' ' :: itemsText ascii rest

/-- Members with a comma and a space between them. -/
def membersText (ascii : Bool) : List (String × Json) → List Char
  | [] => []
  | [(k, j)] => quote ascii k.toList ++ ':' :: ' ' :: text ascii j
  | (k, j) :: rest =>
    quote ascii k.toList ++ ':' :: ' ' :: text ascii j ++ ',' :: ' ' :: membersText ascii rest

end

end Json

end EstreeEmitter
