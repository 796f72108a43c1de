import EstreeEmitter.Estree.Node

set_option autoImplicit false

/-! # What can go wrong with a tree

Each fault is a cause. Two causes have a wording of their own: a construct that has no text, and a
document that is no construct at all. -/

namespace EstreeEmitter

/-- A call that the line buffer refuses. -/
inductive BufferFault where
  /-- The level was zero already. -/
  | dedentAtZero
  /-- More lines were to be deleted than are closed, or fewer than none. -/
  | deleteLines (count : Int) (closed : Nat)
  deriving DecidableEq, Repr

/-- A refused call in words. -/
def BufferFault.message : BufferFault → String
  | .dedentAtZero => "dedent without matching indent"
  | .deleteLines count closed => s!"cannot delete {count} lines from {closed}"

/-- The reason why a document cannot be read or a tree cannot be written. -/
inductive Fault where
  /-- The construct at this place is not supported. -/
  | unsupported (tag : String) (line column : Int)
  /-- The document is a value of this kind and not an object. -/
  | notDocument (kind : String)
  /-- A line or column is of a kind that is no number. -/
  | positionKind
  /-- A line or column is a text or number that denotes no integer. -/
  | positionText
  /-- A line or column is infinite. -/
  | positionRange
  /-- Something other than text stands where text is written. -/
  | notText
  /-- Something that has no entries stands where a list is read. -/
  | notList
  /-- Something stands where a value is looked up that cannot be searched or compared. -/
  | notSearchable
  /-- A construct stands where plain data is written. -/
  | notPlain
  /-- Something other than a construct stands where a statement or clause is wrapped. -/
  | notConstruct
  /-- The parts of a regular expression are not given under keys. -/
  | notRecord
  /-- The line buffer refused a call. -/
  | buffer (cause : BufferFault)
  deriving DecidableEq, Repr

/-- A fault in words, for those that have a wording. -/
def Fault.message? : Fault → Option String
  | .unsupported tag line column => some s!"error:{line}:{column}: unsupported construct: {tag}"
  | .notDocument kind => some s!"expected an ESTree node or dict, got {kind}"
  | .buffer cause => some cause.message
  | _ => none

/-- The fault of a construct without text, at its position or else at 0:0. -/
def Fault.unsupportedAt (tag : String) (pos : Option Pos) : Fault :=
  match pos with
  | some p => .unsupported tag p.line p.column
  | none => .unsupported tag 0 0

end EstreeEmitter
