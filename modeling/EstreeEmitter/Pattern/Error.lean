import EstreeEmitter.Json.Reader
import EstreeEmitter.Pattern.Basic
import EstreeEmitter.Text.Quoted

set_option autoImplicit false

/-! # What can be wrong with a pattern

A problem is told with the place in the pattern where it shows. Four problems are not told in
words: they stop the program. -/

namespace EstreeEmitter

namespace Pattern

/-- What is wrong with a pattern. -/
inductive Problem where
  | missingParenthesis
  | unbalancedParenthesis
  | unterminatedComment
  | nothingToRepeat
  | multipleRepeat
  | repeatBounds
  | unterminatedSet
  | badRange (low high : List Char)
  | badEscape (text : List Char)
  | danglingEscape
  | incompleteEscape (text : List Char)
  | octalRange (text : List Char)
  | missingBrace
  | missingName (what : String)
  | unterminatedName (closing : Char)
  | undefinedCharacter (name : List Char)
  | badGroupName (name : List Char)
  | unknownGroupName (name : List Char)
  | redefinedGroupName (name : List Char) (index previous : Nat)
  | invalidReference (index : Nat)
  | openReference
  | lookbehindReference
  | badGroupNumber
  | tooManyBranches
  | unknownExtension (text : List Char)
  | unexpectedEnd
  | lateFlags
  | localeFlag
  | incompatibleFlags
  | unknownFlag
  | missingFlagEnd
  | missingFlag
  | missingColon
  | globalFlagOn
  | globalFlagOff
  | typeFlagOff
  | flagOnAndOff
  | variableLookbehind
  /-- A repetition under the flag that forbids backtracking. -/
  | repetitionRefused (greed : Greed)
  deriving DecidableEq, Repr

/-- The reason why a pattern cannot be read. -/
inductive Error where
  /-- A problem at a place, or with the pattern as a whole. -/
  | problem (p : Problem) (place : Option Nat)
  /-- A number of repetitions that exceeds what can be counted. -/
  | repetitionTooLarge
  /-- A number with too many digits. -/
  | numberTooLong
  /-- Flags for ASCII and for all characters at once. -/
  | conflictingFlags
  /-- A look behind over too many characters. -/
  | behindTooFar
  deriving DecidableEq, Repr

/-- The name of a form of repetition. -/
def repetitionName : Greed → String
  | .greedy => "MAX_REPEAT"
  | .lazy => "MIN_REPEAT"
  | .possessive => "POSSESSIVE_REPEAT"

/-- A problem in words. -/
def Problem.message : Problem → String
  | .missingParenthesis => "missing ), unterminated subpattern"
  | .unbalancedParenthesis => "unbalanced parenthesis"
  | .unterminatedComment => "missing ), unterminated comment"
  | .nothingToRepeat => "nothing to repeat"
  | .multipleRepeat => "multiple repeat"
  | .repeatBounds => "min repeat greater than max repeat"
  | .unterminatedSet => "unterminated character set"
  | .badRange low high =>
    "bad character range " ++ String.ofList low ++ "-" ++ String.ofList high
  | .badEscape text => "bad escape " ++ String.ofList text
  | .danglingEscape => "bad escape (end of pattern)"
  | .incompleteEscape text => "incomplete escape " ++ String.ofList text
  | .octalRange text =>
    "octal escape value " ++ String.ofList text ++ " outside of range 0-0o377"
  | .missingBrace => "missing \x7b"
  | .missingName what => "missing " ++ what
  | .unterminatedName closing => "missing " ++ String.ofList [closing] ++ ", unterminated name"
  | .undefinedCharacter name => "undefined character name " ++ String.ofList (Text.quoted name)
  | .badGroupName name => "bad character in group name " ++ String.ofList (Text.quoted name)
  | .unknownGroupName name => "unknown group name " ++ String.ofList (Text.quoted name)
  | .redefinedGroupName name index previous =>
    "redefinition of group name " ++ String.ofList (Text.quoted name) ++
      s!" as group {index}; was group {previous}"
  | .invalidReference index => s!"invalid group reference {index}"
  | .openReference => "cannot refer to an open group"
  | .lookbehindReference => "cannot refer to group defined in the same lookbehind subpattern"
  | .badGroupNumber => "bad group number"
  | .tooManyBranches => "conditional backref with more than two branches"
  | .unknownExtension text => "unknown extension ?" ++ String.ofList text
  | .unexpectedEnd => "unexpected end of pattern"
  | .lateFlags => "global flags not at the start of the expression"
  | .localeFlag => "bad inline flags: cannot use 'L' flag with a str pattern"
  | .incompatibleFlags => "bad inline flags: flags 'a', 'u' and 'L' are incompatible"
  | .unknownFlag => "unknown flag"
  | .missingFlagEnd => "missing -, : or )"
  | .missingFlag => "missing flag"
  | .missingColon => "missing :"
  | .globalFlagOn => "bad inline flags: cannot turn on global flag"
  | .globalFlagOff => "bad inline flags: cannot turn off global flag"
  | .typeFlagOff => "bad inline flags: cannot turn off flags 'a', 'u' and 'L'"
  | .flagOnAndOff => "bad inline flags: flag turned on and off"
  | .variableLookbehind => "look-behind requires fixed-width pattern"
  | .repetitionRefused greed => "internal: unsupported template operator " ++ repetitionName greed

/-- A problem in words with its place; in a pattern of several lines also by line and column. -/
def Problem.located (p : Problem) (place : Option Nat) (pattern : List Char) : String :=
  match place with
  | none => p.message
  | some n =>
    let text := s!"{p.message} at position {n}"
    if pattern.contains '\n' then
      s!"{text} (line {Json.lineOf pattern n}, column {Json.columnOf pattern n})"
    else text

end Pattern

end EstreeEmitter
