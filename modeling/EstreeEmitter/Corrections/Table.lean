import EstreeEmitter.Assoc
import EstreeEmitter.Corrections.Template
import EstreeEmitter.Estree.Outline
import EstreeEmitter.Folder
import EstreeEmitter.Note
import EstreeEmitter.Pattern.Parser

set_option autoImplicit false

/-! # Correction tables

A table is a list of corrections, each a pattern with a replacement; they are applied one after the
other to the whole text. Entries are checked in order, so the first bad one is reported. -/

namespace EstreeEmitter

/-- A pattern and what its matches are replaced by. -/
structure Correction where
  source : String
  pattern : Pattern
  groups : Nat
  template : Template

/-- A correction table. -/
abbrev Table := List Correction

/-- What is wrong with an entry of a table. -/
inductive EntryFault where
  | notStrings
  | pattern (p : Pattern.Problem) (place : Option Nat)
  | noGroup (index groups : Nat)
  deriving DecidableEq, Repr

/-- Why there is no table. -/
inductive TableFault where
  /-- An entry is refused; it is named by its pattern. -/
  | entry (pattern : String) (cause : EntryFault)
  /-- A pattern that cannot be a key. -/
  | noKey
  /-- A reference with a digit that has no decimal value. -/
  | notDecimal
  /-- A pattern with flags for ASCII and for all characters. -/
  | conflictingFlags
  /-- A pattern with a number of too many digits. -/
  | numberTooLong
  /-- A pattern with too large a number of repetitions. -/
  | repetitionTooLarge
  /-- A pattern that looks behind over too many characters. -/
  | behindTooFar
  /-- No table comes with the program for this target; its file cannot be read. -/
  | unknownTarget (fault : ReadFault)
  /-- A target with a null character. -/
  | nullInTarget
  /-- The file cannot be opened, for this reason. -/
  | unreadable (path reason : String)
  /-- The file does not hold JSON text, for this reason. -/
  | notJson (path reason : String)
  /-- The file holds JSON text that is no object. -/
  | notObject (path : String)
  deriving DecidableEq, Repr

/-- What is wrong with an entry, in words. -/
def EntryFault.message (pattern : String) : EntryFault → String
  | .notStrings => "pattern and replacement must be strings"
  | .pattern p place => p.located place pattern.toList
  | .noGroup index groups => s!"replacement refers to group {index} of {groups}"

/-- A fault of the configuration in words; `none` for faults that stop the program. -/
def TableFault.message? : TableFault → Option String
  | .entry pattern cause =>
    some (if pattern.isEmpty then cause.message pattern
      else "bad correction " ++ Text.quotedString pattern ++ ": " ++ cause.message pattern)
  | .unreadable path reason => some s!"cannot read '{path}': {reason}"
  | .notJson path reason => some s!"invalid JSON in '{path}': {reason}"
  | .notObject path => some s!"{path}: correction table must be a JSON object"
  | _ => none

/-- The fault of an entry whose replacement is refused. -/
def TableFault.ofTemplate (pattern : String) : TemplateFault → TableFault
  | .noGroup index groups => .entry pattern (.noGroup index groups)
  | .notDecimal => .notDecimal

/-- The correction of a pattern and a replacement. -/
def Correction.ofStrings (source replacement : String) : Except TableFault Correction :=
  match Pattern.parse source.toList with
  | .error (.problem p place) => .error (.entry source (.pattern p place))
  | .error .repetitionTooLarge => .error .repetitionTooLarge
  | .error .numberTooLong => .error .numberTooLong
  | .error .conflictingFlags => .error .conflictingFlags
  | .error .behindTooFar => .error .behindTooFar
  | .ok compiled =>
    match Template.ofReplacement compiled.groups replacement.toList with
    | .ok template => .ok ⟨source, compiled.pattern, compiled.groups, template⟩
    | .error fault => .error (.ofTemplate source fault)

/-- The correction of an entry. -/
def Correction.ofEntry : Json × Json → Except TableFault Correction
  | (.scalar (.str source), .scalar (.str replacement)) => ofStrings source replacement
  | (key, _) => .error (.entry (String.ofList (Value.ofJson key).display) .notStrings)

namespace Table

/-- The table of distinct entries in order. -/
def ofEntries : List (Json × Json) → Except TableFault Table
  | [] => .ok []
  | entry :: rest => do
    let correction ← Correction.ofEntry entry
    return correction :: (← ofEntries rest)

/-- The table of the members of an object. -/
def ofMembers (members : List (String × Json)) : Except TableFault Table :=
  ofEntries (members.map fun (k, v) => (.str k, v))

/-- The value of a number, with truth values as 0 and 1. -/
def numberOf? : Scalar → Option (Int ⊕ Binary64)
  | .bool b => some (.inl (if b then 1 else 0))
  | .int n => some (.inl n)
  | .real x => some (.inr x)
  | _ => none

/-- Two scalars are the same key: equal texts, or numbers of equal value. -/
def sameKey (a b : Scalar) : Bool :=
  match numberOf? a, numberOf? b with
  | some (.inl m), some (.inl n) => m == n
  | some (.inl m), some (.inr x) | some (.inr x), some (.inl m) => x.isInt m
  | some (.inr x), some (.inr y) => (x == y && x != .nan) || (x.isZero && y.isZero)
  | _, _ => a == b

/-- Entries with distinct keys: a repeated key keeps its first place and takes the last value. -/
def distinct (entries : List (Scalar × Json)) : List (Scalar × Json) :=
  let keys : List Scalar := entries.foldl (fun keys e =>
    if keys.any (sameKey · e.1) then keys else keys ++ [e.1]) []
  keys.map fun k => (k, ((entries.reverse.find? fun e => sameKey k e.1).map (·.2)).getD .null)

/-- The keys of pairs, which must not have parts. -/
def keyed : List (Json × Json) → Except TableFault (List (Scalar × Json))
  | [] => .ok []
  | (.scalar k, v) :: rest => do return (k, v) :: (← keyed rest)
  | _ :: _ => .error .noKey

/-- The table of pairs of a pattern and a replacement. -/
def ofPairs (pairs : List (Json × Json)) : Except TableFault Table := do
  let entries ← keyed pairs
  ofEntries ((distinct entries).map fun (k, v) => (.scalar k, v))

end Table

namespace Correction

/-- A text cut at the matches of a correction. -/
def stretches (c : Correction) (code : List Char) : List (Text.Stretch Pattern.Match) :=
  c.pattern.stretches code

/-- The text with all matches of a correction replaced. -/
def apply (c : Correction) (code : List Char) : List Char :=
  Text.paste c.template.expand (c.stretches code)

/-- The number of matches of a correction. -/
def count (c : Correction) (code : List Char) : Nat := (Text.pieces (c.stretches code)).length

end Correction

namespace Table

/-- The text with all corrections applied in order. -/
def apply (t : Table) (code : List Char) : List Char := t.foldl (fun code c => c.apply code) code

/-- The reports on the corrections. -/
def notes : Table → List Char → List Note
  | [], _ => []
  | c :: rest, code =>
    Note.ofCount (.applied c.source) (c.count code) ++ notes rest (c.apply code)

end Table

end EstreeEmitter
