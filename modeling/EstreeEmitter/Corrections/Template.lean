import EstreeEmitter.Pattern.Match
import EstreeEmitter.Text.Digit

set_option autoImplicit false

/-! # Replacement templates

A replacement refers to a match in the way of JavaScript: `$1` to `$99` stand for a group, `$&` for
the whole match, `$$` for a dollar sign; everything else is itself. A template is a replacement with
its references resolved. -/

namespace EstreeEmitter

/-- A part of a template: a character, or the text of a group, with zero for the whole match. -/
inductive TemplatePart where
  | char (c : Char)
  | group (index : Nat)
  deriving DecidableEq, Repr

/-- A replacement with its references resolved. -/
abbrev Template := List TemplatePart

/-- Why a replacement is refused. -/
inductive TemplateFault where
  /-- A reference to a group that the pattern does not have. -/
  | noGroup (index groups : Nat)
  /-- A digit in a reference that has no decimal value. -/
  | notDecimal
  deriving DecidableEq, Repr

namespace Template

/-- The group that the digits of a reference denote. -/
def reference (groups : Nat) (digits : List Char) : Except TemplateFault TemplatePart :=
  match Text.decimalNumber? digits with
  | none => .error .notDecimal
  | some n => if n == 0 || groups < n then .error (.noGroup n groups) else .ok (.group n)

/-- Resolves the references of a replacement for a pattern with a number of groups. Two digits are
taken where there are two. -/
def ofReplacement (groups : Nat) : List Char → Except TemplateFault Template
  | [] => .ok []
  | [c] => .ok [.char c]
  | c :: d :: rest =>
    if c != '$' then do return .char c :: (← ofReplacement groups (d :: rest))
    else if d == '$' then do return .char '$' :: (← ofReplacement groups rest)
    else if d == '&' then do return .group 0 :: (← ofReplacement groups rest)
    else if Text.isDigitLike d then
      match rest with
      | e :: rest' =>
        if Text.isDigitLike e then do
          let part ← reference groups [d, e]
          return part :: (← ofReplacement groups rest')
        else do
          let part ← reference groups [d]
          return part :: (← ofReplacement groups (e :: rest'))
      | [] => do return [← reference groups [d]]
    else do return .char '$' :: (← ofReplacement groups (d :: rest))

/-- A part in text: a backslash is doubled, a group is `\g<N>`. -/
def partText : TemplatePart → List Char
  | .char c => if c == '\\' then ['\\', '\\'] else [c]
  | .group index => '\\' :: 'g' :: '<' :: (toString index).toList ++ ['>']

/-- A template in text. -/
def text (t : Template) : List Char := t.flatMap partText

/-- The text that replaces a match. -/
def expand (t : Template) (m : Pattern.Match) : List Char :=
  t.flatMap fun
    | .char c => [c]
    | .group index => m.group index

end Template

end EstreeEmitter
