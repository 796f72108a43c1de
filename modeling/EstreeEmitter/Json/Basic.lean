import EstreeEmitter.Number.Binary64

set_option autoImplicit false

/-! # JSON values

Numbers keep the difference between an integer and a floating-point number, and objects keep their
members in the order of their first appearance. -/

namespace EstreeEmitter

/-- A JSON value without parts. -/
inductive Scalar where
  | null
  | bool (b : Bool)
  | int (n : Int)
  | real (x : Binary64)
  | str (s : String)
  deriving DecidableEq, Inhabited, Repr

/-- A JSON value. -/
inductive Json where
  | scalar (s : Scalar)
  | arr (items : List Json)
  | obj (members : List (String × Json))
  deriving Inhabited

namespace Json

/-- The null value. -/
def null : Json := .scalar .null

/-- A text. -/
def str (s : String) : Json := .scalar (.str s)

/-- A text given by its characters. -/
def ofChars (cs : List Char) : Json := str (String.ofList cs)

/-- A truth value. -/
def bool (b : Bool) : Json := .scalar (.bool b)

/-- An integer. -/
def int (n : Int) : Json := .scalar (.int n)

/-- The member of an object under a key; `none` when there is none or the value is no object. -/
def get? (j : Json) (key : String) : Option Json :=
  match j with
  | .obj members => members.lookup key
  | _ => none

end Json

end EstreeEmitter
