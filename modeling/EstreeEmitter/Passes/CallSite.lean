import EstreeEmitter.Note
import EstreeEmitter.Text.Blank
import EstreeEmitter.Text.Scan
import EstreeEmitter.Text.Word

set_option autoImplicit false

/-! # Call sites of methods that call a parameter

Where such a method is called with a plain name for that parameter, the name becomes a method
reference. A call is recognised when all its arguments are simple: a word, or a word with a
parenthesis that holds no further parentheses. -/

namespace EstreeEmitter.Passes

open Text

/-- The number of characters of a simple argument at the front; zero when there is none. -/
def argumentLength (cs : List Char) : Nat :=
  let word := (cs.takeWhile isWord).length
  if word == 0 then 0
  else
    match cs.drop word with
    | '(' :: rest =>
      let inner := (rest.takeWhile fun c => c != '(' && c != ')').length
      if rest[inner]? == some ')' then word + 1 + inner + 1 else word
    | _ => word

/-- An argument with the separator before it. -/
structure Argument where
  gap : List Char
  text : List Char

/-- The arguments from the next one to the closing parenthesis; a comma and one blank separate them.
Every argument has a character, so the length of the text is enough `fuel`. -/
def argumentsFrom : Nat → List Char → List Char → Option (List Argument)
  | 0, _, _ => none
  | fuel + 1, gap, cs =>
    let length := argumentLength cs
    if length == 0 then none
    else
      let argument : Argument := ⟨gap, cs.take length⟩
      match cs.drop length with
      | ')' :: _ => some [argument]
      | ',' :: blank :: rest =>
        if isBlank blank then (argumentsFrom fuel [',', blank] rest).map (argument :: ·) else none
      | _ => none

/-- The arguments of a call whose parenthesis was opened just before the text. -/
def arguments? (cs : List Char) : Option (List Argument) := argumentsFrom (cs.length + 1) [] cs

/-- The text of an argument with its separator. -/
def Argument.whole (a : Argument) : List Char := a.gap ++ a.text

/-- The place at hand is not inside a name, a member access or a symbol, nor behind `def`. -/
def startsCall (before : List Char) : Bool :=
  !(before.take 4 == [' ', 'f', 'e', 'd']) &&
    match before with
    | [] => true
    | c :: _ => !(isWord c || c == '.' || c == ':')

/-- A call of the method at the front, with its number of characters. -/
def callSite? (name before cs : List Char) : Option (List Argument × Nat) := do
  if !startsCall before then none
  let rest ← after? (name ++ ['(']) cs
  let arguments ← arguments? rest
  return (arguments, name.length + 1 + (arguments.flatMap Argument.whole).length + 1)

/-- A text that is a plain name: an ASCII letter or low line, then word characters. -/
def isPlainName : List Char → Bool
  | [] => false
  | c :: cs => (c.isAlpha || c == '_') && cs.all isWord

/-- A method reference to a name. -/
def methodReference (name : List Char) : List Char := "method(:".toList ++ name ++ [')']

/-- The argument is to be passed as a method reference. -/
def isReferred (index : Int) (position : Nat) (a : Argument) : Bool :=
  (position : Int) == index && isPlainName a.text

/-- Arguments in text, the one at `index` as a method reference if it is a plain name. -/
def argumentsText (index : Int) : Nat → List Argument → List Char
  | _, [] => []
  | position, a :: rest =>
    a.gap ++ (if isReferred index position a then methodReference a.text else a.text) ++
      argumentsText index (position + 1) rest

/-- The plain names among arguments that are passed as references. -/
def referredNames (index : Int) : Nat → List Argument → List (List Char)
  | _, [] => []
  | position, a :: rest =>
    (if isReferred index position a then [a.text] else []) ++
      referredNames index (position + 1) rest

/-- A text cut at the calls of a method. -/
def cutCallSites (name code : List Char) : List (Stretch (List Argument)) :=
  cut (callSite? name) [] 0 code

/-- The text with the argument at `index` of each call of a method as a method reference. -/
def passReferences (name : List Char) (index : Int) (code : List Char) : List Char :=
  paste (fun arguments => name ++ '(' :: argumentsText index 0 arguments ++ [')'])
    (cutCallSites name code)

/-- The reports on method references. -/
def referenceNotes (name : List Char) (index : Int) (code : List Char) : List Note :=
  (pieces (cutCallSites name code)).flatMap fun arguments =>
    (referredNames index 0 arguments).map fun argument => .methodReference argument name

end EstreeEmitter.Passes
