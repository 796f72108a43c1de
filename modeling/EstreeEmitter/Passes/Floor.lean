import EstreeEmitter.Passes.Brackets

set_option autoImplicit false

/-! # Floor calls

`Math.floor(x)` becomes `(x).floor`, where the call closes on its line. Calls are edited from right
to left, so an inner call already has its new form when the call around it is edited. -/

namespace EstreeEmitter.Passes

/-- The start of a floor call. -/
def floorHead : List Char := "Math.floor(".toList

/-- The text behind an edited floor call's argument. -/
def floorTail : List Char := ").floor".toList

/-- Edits a floor call at the front. `edited` is the text behind the first character with all its
floor calls edited; no call starts in the rest of the head, so the argument starts ten characters
on. -/
def editFloor (c : Char) (edited : List Char) : List Char :=
  let argument := edited.drop (floorHead.length - 1)
  match closingOffset? argument with
  | some i => '(' :: argument.take i ++ floorTail ++ argument.drop (i + 1)
  | none => c :: edited

/-- The text with its floor calls as method calls. -/
def floorCalls : List Char → List Char
  | [] => []
  | c :: cs =>
    if floorHead.isPrefixOf (c :: cs) then editFloor c (floorCalls cs) else c :: floorCalls cs

/-- The number of floor calls that are edited. -/
def floorCount : List Char → Nat
  | [] => 0
  | c :: cs =>
    if floorHead.isPrefixOf (c :: cs) &&
        (closingOffset? ((floorCalls cs).drop (floorHead.length - 1))).isSome then
      floorCount cs + 1
    else floorCount cs

end EstreeEmitter.Passes
