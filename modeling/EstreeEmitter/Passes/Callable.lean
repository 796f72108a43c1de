import EstreeEmitter.Assoc
import EstreeEmitter.Note
import EstreeEmitter.Text.Blank
import EstreeEmitter.Text.Scan
import EstreeEmitter.Text.Word

set_option autoImplicit false

/-! # Parameters that are called

In a method definition, a call of a parameter becomes a call of its `call` method. A definition is a
`def` line with parameters and the non-empty lines behind it. The registry keeps, for each method
with such a parameter, the position of the last one. -/

namespace EstreeEmitter.Passes

open Text

/-! ## Definitions in a text -/

/-- A definition: the method's name, the text of its parameters, its first line and the lines
behind it. -/
structure Chunk where
  name : List Char
  parameters : List Char
  header : List Char
  body : List Char

/-- The text behind a word whose characters may each be one of several. -/
def afterLetters? : List (List Char) → List Char → Option (List Char)
  | [], cs => some cs
  | _ :: _, [] => none
  | choices :: more, c :: cs => if choices.contains c then afterLetters? more cs else none

/-- The word `def` in any case, and a space. -/
def defLetters : List (List Char) := [['d', 'D'], ['e', 'E'], ['f', 'F'], [' ']]

/-- The lines at the front that are not empty and end in a line feed. -/
def fullLines (cs : List Char) : List Char :=
  ((splitLines cs).dropLast.takeWhile (!·.isEmpty)).flatMap (· ++ ['\n'])

/-- What stands between a parenthesis opened before a line and one that ends the line, if there is
anything. -/
def lineArgument? (line : List Char) : Option (List Char) :=
  if line.getLast? == some ')' && 2 ≤ line.length then some line.dropLast else none

/-- A definition at the front: `def`, a name, parameters in parentheses up to the end of the line,
and at least one full line behind. -/
def chunk? (cs : List Char) : Option Chunk := do
  let afterDef ← afterLetters? defLetters cs
  let name := afterDef.takeWhile isWord
  if name.isEmpty then none
  let afterName ← after? ['('] (afterDef.drop name.length)
  let line := afterName.takeWhile (· != '\n')
  let parameters ← lineArgument? line
  let afterLine ← after? ['\n'] (afterName.drop line.length)
  let body := fullLines afterLine
  if body.isEmpty then none
  return {
    name, parameters, body
    header := cs.take (defLetters.length + name.length + 1 + line.length) }

/-- The number of characters of a definition. -/
def Chunk.length (chunk : Chunk) : Nat := chunk.header.length + 1 + chunk.body.length

/-! ## Parameters -/

/-- A character that separates parameters. -/
def isSeparator (c : Char) : Bool := isBlank c || c == ','

/-- The length of a parameter with a parenthesis: it opens inside the first `run` characters, as far
back as possible but not at the start, and closes at the first closing one that leaves something
between. -/
def parenthesisedLength? (run : Nat) (cs : List Char) : Option Nat :=
  (List.range run).reverse.findSome? fun k =>
    if k != 0 && cs[k]? == some '(' then
      ((cs.drop (k + 2)).findIdx? (· == ')')).map (k + 2 + · + 1)
    else none

/-- A parameter at the front. -/
def parameter? (cs : List Char) : Option (List Char × Nat) :=
  let run := (cs.takeWhile (!isSeparator ·)).length
  if run == 0 then none
  else
    let length := (parenthesisedLength? run cs).getD run
    some (cs.take length, length)

/-- The parameters in a parameter text. -/
def parametersOf (cs : List Char) : List (List Char) :=
  pieces (cut (fun _ rest => parameter? rest) [] 0 cs)

/-! ## Calls of a parameter -/

/-- The name at hand is not the end of a longer name or of a member access. -/
def startsName (before : List Char) : Bool :=
  match before with
  | [] => true
  | c :: _ => !(isWord c || c == '.')

/-- A body cut at the calls of a parameter. -/
def cutCalls (parameter body : List Char) : List (Stretch Unit) :=
  cut (fun before rest =>
    if startsName before && (parameter ++ ['(']).isPrefixOf rest then
      some ((), parameter.length + 1)
    else none) [] 0 body

/-- The parameter is called in the body. -/
def isCalled (parameter body : List Char) : Bool := !(pieces (cutCalls parameter body)).isEmpty

/-- The body with the calls of a parameter as calls of its `call` method. -/
def callThrough (parameter body : List Char) : List Char :=
  paste (fun _ => parameter ++ ".call(".toList) (cutCalls parameter body)

/-- A body after some of the parameters, with those that were called and their positions. -/
structure Marked where
  body : List Char
  called : List (List Char × Nat)

/-- Marks the calls of parameters, the first of them at the given position, one after the other. -/
def markBody : List (List Char) → Nat → List Char → Marked
  | [], _, body => ⟨body, []⟩
  | parameter :: rest, position, body =>
    if isCalled parameter body then
      let marked := markBody rest (position + 1) (callThrough parameter body)
      { marked with called := (parameter, position) :: marked.called }
    else markBody rest (position + 1) body

/-- The body of a definition with its parameters' calls marked. -/
def Chunk.mark (chunk : Chunk) : Marked := markBody (parametersOf chunk.parameters) 0 chunk.body

/-- A definition in text, after marking. -/
def Chunk.marked (chunk : Chunk) : List Char := chunk.header ++ '\n' :: chunk.mark.body

/-! ## The pass -/

/-- Methods and the position of a parameter that they call. -/
abbrev Registry := List (List Char × Int)

/-- A text cut at its definitions. -/
def cutChunks (code : List Char) : List (Stretch Chunk) :=
  cut (fun _ rest => (chunk? rest).map fun chunk => (chunk, chunk.length)) [] 0 code

/-- The text with calls of parameters marked. -/
def markCallable (code : List Char) : List Char := paste Chunk.marked (cutChunks code)

/-- The registry after all definitions of a text. -/
def registerCallable (code : List Char) (registry : Registry) : Registry :=
  (pieces (cutChunks code)).foldl (fun registry chunk =>
    chunk.mark.called.foldl (fun registry call => Assoc.put chunk.name call.2 registry) registry)
    registry

/-- The reports on calls of parameters. -/
def callableNotes (code : List Char) : List Note :=
  (pieces (cutChunks code)).flatMap fun chunk =>
    chunk.mark.called.map fun call => .parameterCalled call.1 chunk.name call.2

end EstreeEmitter.Passes
