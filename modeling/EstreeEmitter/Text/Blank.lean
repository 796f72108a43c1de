set_option autoImplicit false

/-! # Blank characters

The white space that is dropped at line ends, that separates words, and that the class `\s` of
patterns stands for: the spaces of all scripts, the line and paragraph separators, and the
control characters that move the print position or separate records. -/

namespace EstreeEmitter.Text

/-- A white-space character. -/
def isBlank (c : Char) : Bool :=
  let n := c.toNat
  (0x09 ≤ n && n ≤ 0x0D) || (0x1C ≤ n && n ≤ 0x20) || n == 0x85 || n == 0xA0 || n == 0x1680 ||
    (0x2000 ≤ n && n ≤ 0x200A) || n == 0x2028 || n == 0x2029 || n == 0x202F || n == 0x205F ||
    n == 0x3000

/-- White space among the first 128 code points, without the four record separators. -/
def isAsciiBlank (c : Char) : Bool :=
  (0x09 ≤ c.toNat && c.toNat ≤ 0x0D) || c == ' '

/-- The text without the blank characters at its end. -/
def trimRight : List Char → List Char
  | [] => []
  | c :: cs =>
    match trimRight cs with
    | [] => if isBlank c then [] else [c]
    | rest => c :: rest

/-- The text without the blank characters at its start. -/
def trimLeft (cs : List Char) : List Char := cs.dropWhile isBlank

/-- A text of blank characters only. -/
def isBlankText (cs : List Char) : Bool := cs.all isBlank

end EstreeEmitter.Text
