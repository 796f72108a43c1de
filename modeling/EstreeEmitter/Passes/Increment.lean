import EstreeEmitter.Text.Scan
import EstreeEmitter.Text.Word

set_option autoImplicit false

/-! # Increments

`x++` becomes `x += 1` and `x--` becomes `x -= 1`, outside quoted text; a line that only holds
`++x` or `--x` likewise. The operand is a word or a chain of words with dots between, with at most
one index in brackets. -/

namespace EstreeEmitter.Passes

open Text

/-- The chain of words and dots at the front of a text that starts with a word. -/
def wordChain : List Char → List Char
  | [] => []
  | c :: cs =>
    if isWord c then c :: wordChain cs
    else if c == '.' && (cs.head?.any isWord) then c :: wordChain cs
    else []

/-- An index in brackets at the front: not empty, on one line, without brackets inside. -/
def bracketIndex : List Char → List Char
  | '[' :: cs =>
    let inner := cs.takeWhile fun c => c != '[' && c != ']' && c != '\n'
    if !inner.isEmpty && cs[inner.length]? == some ']' then '[' :: inner ++ [']'] else []
  | _ => []

/-- The operand of an increment at the front; empty when there is none. -/
def operand (cs : List Char) : List Char :=
  if cs.head?.any isWord then
    let chain := wordChain cs
    chain ++ bracketIndex (cs.drop chain.length)
  else []

/-- The number of characters of a quoted text behind its opening quote, with the closing one; it
must close on its line, and a backslash hides the character behind it. -/
def quotedRest? (quote : Char) : List Char → Option Nat
  | [] => none
  | [c] => if c == quote then some 1 else none
  | c :: d :: cs =>
    if c == quote then some 1
    else if c == '\n' then none
    else if c == '\\' then if d == '\n' then none else (quotedRest? quote cs).map (· + 2)
    else (quotedRest? quote (d :: cs)).map (· + 1)

/-- A piece that matters for increments behind their operand. -/
inductive Token where
  /-- A quoted text, which stays. -/
  | quoted (text : List Char)
  /-- An operand whose operator is to be written out. -/
  | step (operand : List Char)

/-- A quoted text, or an operand with the doubled sign behind it, at the front. -/
def token? (sign : Char) (cs : List Char) : Option (Token × Nat) :=
  match cs with
  | [] => none
  | c :: rest =>
    if c == '"' || c == '\'' then
      (quotedRest? c rest).map fun n => (.quoted (cs.take (n + 1)), n + 1)
    else
      let x := operand cs
      if !x.isEmpty && [sign, sign].isPrefixOf (cs.drop x.length) then
        some (.step x, x.length + 2)
      else none

/-- The written-out operator. -/
def stepText (sign : Char) : List Char := [' ', sign, '=', ' ', '1']

/-- A token in text. -/
def Token.text (sign : Char) : Token → List Char
  | .quoted text => text
  | .step x => x ++ stepText sign

/-- The token is an increment. -/
def Token.isStep : Token → Bool
  | .quoted _ => false
  | .step _ => true

/-- A text cut at its quoted texts and increments. -/
def cutTokens (sign : Char) (code : List Char) : List (Stretch Token) :=
  cut (fun _ rest => token? sign rest) [] 0 code

/-- The text with the operators behind operands written out. -/
def trailingSteps (sign : Char) (code : List Char) : List Char :=
  paste (Token.text sign) (cutTokens sign code)

/-- A space or a tab. -/
def isSpaceOrTab (c : Char) : Bool := c == ' ' || c == '\t'

/-- The operator before an operand, on a line of its own, written out. -/
def leadingStep? (sign : Char) (line : List Char) : Option (List Char) := do
  let margin := line.takeWhile isSpaceOrTab
  let rest ← after? [sign, sign] (line.drop margin.length)
  let x := operand rest
  if x.isEmpty then none
  if (rest.drop x.length).all isSpaceOrTab then return margin ++ x ++ stepText sign else none

/-- The text with the lines that only hold an increment written out. -/
def leadingSteps (sign : Char) (code : List Char) : List Char :=
  joinWith ['\n'] ((splitLines code).map fun line => (leadingStep? sign line).getD line)

/-- The number of operators behind operands. -/
def trailingCount (sign : Char) (code : List Char) : Nat :=
  (pieces (cutTokens sign code)).countP Token.isStep

/-- The number of lines that only hold an increment. -/
def leadingCount (sign : Char) (code : List Char) : Nat :=
  (splitLines code).countP fun line => (leadingStep? sign line).isSome

/-- The text with increments written out: those behind operands first, then those before. -/
def increments (code : List Char) : List Char :=
  leadingSteps '-' (leadingSteps '+' (trailingSteps '-' (trailingSteps '+' code)))

/-- The number of increments written out. -/
def incrementCount (code : List Char) : Nat :=
  let a := trailingSteps '+' code
  let b := trailingSteps '-' a
  let c := leadingSteps '+' b
  trailingCount '+' code + trailingCount '-' a + leadingCount '+' b + leadingCount '-' c

end EstreeEmitter.Passes
