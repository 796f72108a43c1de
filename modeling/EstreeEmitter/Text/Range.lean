set_option autoImplicit false

/-! # Tables of code points

Properties of characters are kept as tables of closed ranges of code points. -/

namespace EstreeEmitter.Text

/-- The code point `n` lies in one of the ranges. -/
def inRanges (table : List (Nat × Nat)) (n : Nat) : Bool :=
  table.any fun r => r.1 ≤ n && n ≤ r.2

end EstreeEmitter.Text
