import EstreeEmitter.Pattern.Basic

set_option autoImplicit false

/-! # Alternatives

Alternatives are lists of parts. What all of them start with is read once, and when after that each
of them is a single character or set, they form one set. -/

namespace EstreeEmitter

namespace Pattern

/-- Two parts that are known to be the same: single characters, sets, conditions and references.
Parts with patterns inside are not compared. -/
def isSamePart : Pattern → Pattern → Bool
  | .char negated n folding, .char negated' n' folding' =>
    negated == negated' && n == n' && folding == folding'
  | .set s, .set s' => s == s'
  | .any lineFeed, .any lineFeed' => lineFeed == lineFeed'
  | .anchor a, .anchor a' => a == a'
  | .backref index folding, .backref index' folding' => index == index' && folding == folding'
  | _, _ => false

/-- The parts that a branch and all the others start with, and what is left of the branches. -/
def sharedStart : List Pattern → List (List Pattern) → List Pattern × List (List Pattern)
  | [], rest => ([], [] :: rest)
  | p :: ps, rest =>
    if rest.all fun b => b.head?.any (isSamePart p) then
      let (shared, left) := sharedStart ps (rest.map List.tail)
      (p :: shared, left)
    else ([], (p :: ps) :: rest)

/-- The members of a branch that is a single character or set. -/
def members? : List Pattern → Option (List CharItem)
  | [.char false n _] => some [.code n]
  | [.set s] => if s.negated then none else some s.items
  | _ => none

/-- The members of all the branches, if each is a single character or set. -/
def allMembers? : List (List Pattern) → Option (List CharItem)
  | [] => some []
  | b :: rest => do return (← members? b) ++ (← allMembers? rest)

/-- The parts that stand for some branches, where letters compare by `folding` and named classes are
`ascii` or not. -/
def joinBranches (folding : Folding) (ascii : Bool) : List (List Pattern) → List Pattern
  | [] => []
  | [b] => b
  | b :: rest =>
    let (shared, left) := sharedStart b rest
    let last : Pattern :=
      match allMembers? left with
      | some items => .set ⟨false, items.eraseDups, folding, ascii⟩
      | none => ofBranches (left.map ofParts)
    shared ++ [last]

end Pattern

end EstreeEmitter
