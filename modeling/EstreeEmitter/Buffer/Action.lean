import EstreeEmitter.Buffer

set_option autoImplicit false

/-! # Buffer actions

A call of the buffer as data, so that a run of calls is a list. A refused action leaves the buffer
as it was. -/

namespace EstreeEmitter

namespace Buffer

/-- A call of the buffer. -/
inductive Action where
  | add (text : List Char)
  | newline
  | indent
  | dedent
  | trim
  | deleteLines (count : Int)
  | get
  deriving DecidableEq, Repr

/-- What a call answers: the buffer itself, or its text. -/
inductive Answer where
  | done
  | text (cs : List Char)
  deriving DecidableEq, Repr

/-- The effect of a call that may be refused. -/
def settle (b : Buffer) : Except BufferFault Buffer → Except BufferFault Answer × Buffer
  | .ok b' => (.ok .done, b')
  | .error cause => (.error cause, b)

/-- The answer of a call and the buffer after it. -/
def perform (b : Buffer) : Action → Except BufferFault Answer × Buffer
  | .add text => (.ok .done, b.add text)
  | .newline => (.ok .done, b.newline)
  | .indent => (.ok .done, b.indent)
  | .dedent => b.settle b.dedent
  | .trim => (.ok .done, b.trim)
  | .deleteLines count => b.settle (b.deleteLines count)
  | .get => (.ok (.text b.text), b)

/-- The buffer after a run of calls. -/
def performAll (b : Buffer) (actions : List Action) : Buffer :=
  actions.foldl (fun b a => (b.perform a).2) b

end Buffer

end EstreeEmitter
