set_option autoImplicit false

/-! # Association lists in order of first appearance -/

namespace EstreeEmitter.Assoc

/-- The list with `key` set to `value`: a key that is there keeps its place and takes the new value,
a new key comes last. -/
def put {α β : Type} [BEq α] (key : α) (value : β) : List (α × β) → List (α × β)
  | [] => [(key, value)]
  | (k, v) :: rest => if k == key then (k, value) :: rest else (k, v) :: put key value rest

end EstreeEmitter.Assoc
