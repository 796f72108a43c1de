import EstreeEmitter.Passes.Brackets
import EstreeEmitter.Passes.Callable

set_option autoImplicit false

/-! # Printed sums

`puts` prints a sum of texts only if every operand is a text. The operands of the sum that ends a
line are turned into texts, except those that are quoted or turned already. A parenthesised first
operand with a quoted operand of its own is part of the sum. -/

namespace EstreeEmitter.Passes

open Text

/-- The text starts with a quote. -/
def isQuoted (part : List Char) : Bool := part.head?.any isQuote

/-- The operands of a sum. -/
def concatOperands (cs : List Char) : List (List Char) :=
  match _hp : splitTopLevel cs with
  | [] => []
  | first :: others =>
    match _hu : unwrap? first with
    | some inner =>
      let operands := concatOperands inner
      if 1 < operands.length && operands.any isQuoted then operands ++ others else first :: others
    | none => first :: others
termination_by cs.length
decreasing_by
  have h₁ := length_lt_of_unwrap? _hu
  have h₂ := length_le_of_mem_splitFrom 0 none cs first (by
    show first ∈ splitTopLevel cs
    simp [_hp])
  omega

/-- The mark of an operand that is turned into a text already. -/
def toText : List Char := ".to_s".toList

/-- An operand as a text. -/
def textOperand (part : List Char) : List Char :=
  if isQuoted part || toText.isSuffixOf part then part else '(' :: part ++ ')' :: toText

/-- The word `puts` in any case, and a parenthesis; a long s counts as an s. -/
def putsLetters : List (List Char) :=
  [['p', 'P'], ['u', 'U'], ['t', 'T'], ['s', 'S', '\u017f'], ['(']]

/-- A call of `puts` at the front that ends its line: what it prints, and its number of characters
with the line feed. -/
def putsCall? (cs : List Char) : Option (List Char × Nat) := do
  let rest ← afterLetters? putsLetters cs
  let line := rest.takeWhile (· != '\n')
  let argument ← lineArgument? line
  let _ ← after? ['\n'] (rest.drop line.length)
  return (argument, putsLetters.length + line.length + 1)

/-- A text cut at its calls of `puts`. -/
def cutPuts (code : List Char) : List (Stretch (List Char)) :=
  cut (fun _ rest => putsCall? rest) [] 0 code

/-- The call with its operands turned into texts. -/
def putsText (argument : List Char) : List Char :=
  "puts(".toList ++ joinWith " + ".toList ((concatOperands argument).map textOperand) ++ [')', '\n']

/-- The text with printed operands turned into texts. -/
def stringifyPuts (code : List Char) : List Char := paste putsText (cutPuts code)

/-- The number of calls of `puts` that are edited. -/
def putsCount (code : List Char) : Nat := (pieces (cutPuts code)).length

end EstreeEmitter.Passes
