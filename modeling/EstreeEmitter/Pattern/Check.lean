import EstreeEmitter.Pattern.Error

set_option autoImplicit false

/-! # Checks on a whole pattern

A pattern that was read is looked through from left to right and from the outside to the inside.
Without backtracking there are no repetitions, and what is looked for behind a place must have a
fixed width. -/

namespace EstreeEmitter

namespace Pattern

/-- The first problem of a pattern; `noBacktracking` forbids repetitions. -/
def problem? (noBacktracking : Bool) : Pattern → Option Problem
  | .empty | .char .. | .set _ | .any _ | .anchor _ | .backref .. => none
  | .seq p q | .alt p q | .ifGroup _ p q =>
    (p.problem? noBacktracking).or (q.problem? noBacktracking)
  | .group _ p | .scope p | .ahead _ p | .atomic p => p.problem? noBacktracking
  | .rep greed _ _ p =>
    if noBacktracking then some (.repetitionRefused greed) else p.problem? noBacktracking
  | .behind _ width p =>
    if width.low == width.high then p.problem? noBacktracking else some .variableLookbehind

/-- The least number of characters that cannot be looked behind. -/
def behindLimit : Nat := 2147483648

/-- Every look behind stays below the limit. -/
def isNearsighted : Pattern → Bool
  | .empty | .char .. | .set _ | .any _ | .anchor _ | .backref .. => true
  | .seq p q | .alt p q | .ifGroup _ p q => p.isNearsighted && q.isNearsighted
  | .group _ p | .scope p | .ahead _ p | .atomic p | .rep _ _ _ p => p.isNearsighted
  | .behind _ width p => width.low < behindLimit && p.isNearsighted

/-- A pattern that has passed all checks. -/
def checked (noBacktracking : Bool) (p : Pattern) : Except Error Pattern :=
  match p.problem? noBacktracking with
  | some problem => .error (.problem problem none)
  | none => if p.isNearsighted then .ok p else .error .behindTooFar

end Pattern

end EstreeEmitter
