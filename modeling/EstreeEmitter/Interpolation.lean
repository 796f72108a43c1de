set_option autoImplicit false

/-! # Interpolation marks

In a double-quoted Ruby text, a number sign before a brace, a dollar or an at sign starts an
interpolation. A backslash before the number sign keeps the text as it is. -/

namespace EstreeEmitter

/-- A character that makes a number sign before it an interpolation. -/
def opensInterpolation (c : Char) : Bool := c == '\x7b' || c == '$' || c == '@'

/-- The text with a backslash before every number sign that would start an interpolation. -/
def escapeInterpolation : List Char → List Char
  | [] => []
  | [c] => [c]
  | c :: d :: cs =>
    if c == '#' && opensInterpolation d then '\\' :: '#' :: escapeInterpolation (d :: cs)
    else c :: escapeInterpolation (d :: cs)

end EstreeEmitter
