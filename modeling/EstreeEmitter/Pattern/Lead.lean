import EstreeEmitter.Pattern.Basic

set_option autoImplicit false

/-! # The first character of a match

A pattern that starts with a set is only tried where the next character lies in that set. This look
at the first character takes named classes as the flags of the whole pattern have them, also when
the set stands under flags of its own; both readings of the set must then agree. -/

namespace EstreeEmitter

/-- A member without a character whose case is ignored. -/
def CharItem.isCaseless (folding : Folding) : CharItem → Bool
  | .code n => !folding.isCased n
  | .range low high =>
    folding == .exact ||
      (high ≤ basicLimit && !(List.range' low (high + 1 - low)).any folding.isCased)
  | .category .. => true

namespace Pattern

/-- The set that a pattern starts with, if letter case makes no difference to it. Groups are looked
into. -/
def leadSet? : Pattern → Option CharSet
  | .set s => if s.items.all (·.isCaseless s.folding) then some s else none
  | .seq p _ | .group _ p | .scope p => p.leadSet?
  | _ => none

/-- The pattern with a look at its first character, where named classes are `ascii` or not. -/
def withLead (ascii : Bool) (p : Pattern) : Pattern :=
  match p.leadSet? with
  | some s =>
    if s.ascii == ascii then p
    else .seq (.ahead false (.set { s with folding := .exact, ascii := ascii })) p
  | none => p

end Pattern

end EstreeEmitter
