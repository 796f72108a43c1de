import EstreeEmitter.Emit.Basic
import EstreeEmitter.Estree.Outline
import EstreeEmitter.Interpolation

set_option autoImplicit false

/-! # Texts of leaves

The two dialects differ in the word for null and in quoted text: Ruby text in double quotes must
not interpolate. The raw text that a document gives for a literal is kept. -/

namespace EstreeEmitter

/-- The form of the emitted text: neutral, or Ruby before corrections. -/
inductive Dialect where
  | plain
  | ruby
  deriving DecidableEq, Repr

/-- The dialect is Ruby. -/
def Dialect.isRuby (d : Dialect) : Bool := d == .ruby

/-- The word for null. -/
def Dialect.nullWord : Dialect → String
  | .plain => "null"
  | .ruby => "nil"

/-- The text that a value is; anything else is refused. -/
def Value.asText : Value → Except Fault (List Char)
  | .scalar (.str s) => .ok s.toList
  | _ => .error .notText

/-- The value under a key, as text; a missing one is empty. -/
def fieldText (fields : List (String × Value)) (key : String) : Except Fault (List Char) :=
  match fields.lookup key with
  | some v => v.asText
  | none => .ok []

/-- Plain data as JSON text. -/
def Value.jsonText (ascii : Bool) (v : Value) : Except Fault (List Char) :=
  match v.toJson? with
  | some j => .ok (j.text ascii)
  | none => .error .notPlain

/-- A word occurs in a text. -/
def occurs (word : List Char) : List Char → Bool
  | [] => word.isEmpty
  | c :: cs => word.isPrefixOf (c :: cs) || occurs word cs

/-- The value is the given text. -/
def Value.isText (s : String) : Value → Bool
  | .scalar (.str t) => t == s
  | _ => false

/-- The raw text of a literal, from what stands in its `extra` field. -/
def rawText? : Value → Except Fault (Option (List Char))
  | .scalar .null => .ok none
  | .record fields => .ok ((fields.lookup "raw").map Value.display)
  | .list items => if items.any (Value.isText "raw") then .error .notSearchable else .ok none
  | .scalar (.str s) =>
    if occurs "raw".toList s.toList then .error .notSearchable else .ok none
  | _ => .error .notSearchable

/-- The raw text of a literal, or else the text made from its value. -/
def rawOr (extra : Value) (other : Except Fault (List Char)) : Except Fault (List Char) := do
  match ← rawText? extra with
  | some raw => return raw
  | none => other

/-- A value in double quotes. -/
def Dialect.quote (d : Dialect) (v : Value) : Except Fault (List Char) :=
  match d with
  | .plain => v.jsonText false
  | .ruby => (v.jsonText false).map escapeInterpolation

/-- A raw string literal: Ruby text in double quotes must not interpolate. -/
def Dialect.rawString (d : Dialect) (raw : List Char) : List Char :=
  match d, raw with
  | .ruby, '"' :: _ => escapeInterpolation raw
  | _, _ => raw

/-- The text of a string literal. -/
def Dialect.stringText (d : Dialect) (value extra : Value) : Except Fault (List Char) := do
  match ← rawText? extra with
  | some raw => return d.rawString raw
  | none => d.quote value

/-- The text of a numeric literal. -/
def numericText (value extra : Value) : Except Fault (List Char) :=
  rawOr extra (value.jsonText true)

/-- The text of a regular expression from its pattern and its flags. -/
def slashed (pattern flags : Except Fault (List Char)) : Except Fault (List Char) := do
  return '/' :: (← pattern) ++ '/' :: (← flags)

/-- The text of a regular expression literal. -/
def regExpText (pattern flags extra : Value) : Except Fault (List Char) :=
  rawOr extra (slashed pattern.asText flags.asText)

/-- The text of a literal that does not tell its kind. -/
def Dialect.literalText (d : Dialect) (value raw regex : Value) : Except Fault (List Char) :=
  if regex.isNull then
    match value with
    | .scalar .null => .ok d.nullWord.toList
    | .scalar (.str _) => d.quote value
    | _ => value.jsonText true
  else if raw.isNull then
    match regex with
    | .record fields => slashed (fieldText fields "pattern") (fieldText fields "flags")
    | _ => .error .notRecord
  else raw.asText

/-- The text of a truth value. -/
def booleanText (value : Value) : String := if value.isTruthy then "true" else "false"

/-- The operators that are words and need a space before their operand. -/
def isWordOperator (s : String) : Bool := s == "typeof" || s == "void" || s == "delete"

/-- The text of an operator before or behind one operand. What can be no operator at all is refused
at once, other data only when it is written. -/
def unaryOperator : Value → Except Fault (Except Fault (List Char))
  | .scalar (.str s) => .ok (.ok (if isWordOperator s then s.toList ++ [' '] else s.toList))
  | .scalar _ => .ok (.error .notText)
  | _ => .error .notSearchable

/-- An operator between two operands, with spaces around it. -/
def spacedOperator (operator : Value) : Except Fault (List Char) := do
  return ' ' :: (← operator.asText) ++ [' ']

end EstreeEmitter
