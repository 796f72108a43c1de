import EstreeEmitter.Text.Quoted

set_option autoImplicit false

/-! # Debug notes

What the corrections report about their work when the command line asks for it. -/

namespace EstreeEmitter

/-- A report of a correction. -/
inductive Note where
  | loaded (count : Nat) (path : String)
  | applied (pattern : String) (count : Nat)
  | floorCalls (count : Nat)
  | parameterCalled (parameter function : List Char) (position : Nat)
  | methodReference (argument function : List Char)
  | increments (count : Nat)
  | puts (count : Nat)
  deriving DecidableEq, Repr

/-- The part of the program that reports. -/
def Note.source : Note → String
  | .loaded .. | .applied .. => "jsrb.corrections"
  | _ => "jsrb.backend.ruby"

/-- A report in words. -/
def Note.message : Note → String
  | .loaded count path => s!"loaded {count} corrections from {path}"
  | .applied pattern count =>
    "correction " ++ Text.quotedString pattern ++ s!" applied {count} times"
  | .floorCalls count => s!"rewrote {count} floor calls"
  | .parameterCalled parameter function position =>
    "parameter " ++ String.ofList parameter ++ " of " ++ String.ofList function ++
      s!" is called (position {position})"
  | .methodReference argument function =>
    "passing " ++ String.ofList argument ++ " to " ++ String.ofList function ++
      " as a method reference"
  | .increments count => s!"rewrote {count} increment operators"
  | .puts count => s!"stringified {count} puts calls"

/-- A report as a line of the debug output. -/
def Note.line (n : Note) : String := s!"DEBUG {n.source}: {n.message}\n"

/-- A report of a number of changes, if there were any. -/
def Note.ofCount (note : Nat → Note) (count : Nat) : List Note :=
  if count == 0 then [] else [note count]

end EstreeEmitter
