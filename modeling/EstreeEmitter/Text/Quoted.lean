import EstreeEmitter.Json.Printer
import EstreeEmitter.Text.Printable

set_option autoImplicit false

/-! # Quoted text in messages

A text is shown in single quotes, or in double quotes when it holds a single quote and no double
one. The backslash and the quote in use are escaped, and so is every character that has no visible
shape. -/

namespace EstreeEmitter.Text

/-- The quote that shows a text. -/
def quoteFor (cs : List Char) : Char :=
  if cs.contains '\'' && !cs.contains '"' then '"' else '\''

/-- A character inside a text shown with the quote `q`. -/
def shownChar (q c : Char) : List Char :=
  if c == q || c == '\\' then ['\\', c]
  else if c == '\n' then ['\\', 'n']
  else if c == '\r' then ['\\', 'r']
  else if c == '\t' then ['\\', 't']
  else if isPrintable c then [c]
  else if c.toNat < 0x100 then '\\' :: 'x' :: hexText 2 c.toNat
  else if c.toNat < 0x10000 then '\\' :: 'u' :: hexText 4 c.toNat
  else '\\' :: 'U' :: hexText 8 c.toNat

/-- A text in quotes. -/
def quoted (cs : List Char) : List Char :=
  let q := quoteFor cs
  q :: cs.flatMap (shownChar q) ++ [q]

/-- A text in quotes, as a string. -/
def quotedString (s : String) : String := String.ofList (quoted s.toList)

end EstreeEmitter.Text
