import EstreeEmitter.Estree.Builder

set_option autoImplicit false

/-! # Recipes

A recipe describes a tree as nested applications of short constructors. Arguments are given in order
or by name, as the signature of the constructor allows. -/

namespace EstreeEmitter

/-- A short constructor. -/
inductive Shorthand where
  | program | file | identifier | numeric | string | boolean | null | array | binary | logical
  | unary | update | assignment | conditional | member | call | expression | declaration
  | returned | block | function | branch | whileLoop | doLoop | forLoop | breakOff | imported
  deriving DecidableEq, Repr

/-- Why a recipe fails. -/
inductive RecipeFault where
  /-- The arguments do not fit the signature. -/
  | arguments
  /-- A value without entries stands for the names of parameters. -/
  | notList
  /-- The content of a string literal is no text. -/
  | notText
  /-- The quote of a string literal is no text. -/
  | quoteNotText
  deriving DecidableEq, Repr

/-- What a constructor can be applied to: named parameters, some with a default, and any number of
further arguments if `variadic`. -/
structure Signature where
  parameters : List (String × Option Scalar)
  variadic : Bool

namespace Signature

/-- Parameters without defaults. -/
def required (names : List String) : Signature := ⟨names.map fun n => (n, none), false⟩

/-- The signature with further parameters that have defaults. -/
def optional (s : Signature) (more : List (String × Scalar)) : Signature :=
  { s with parameters := s.parameters ++ more.map fun (n, v) => (n, some v) }

/-- The signature with any number of further arguments. -/
def andMore (s : Signature) : Signature := { s with variadic := true }

/-- The values of the parameters, and the further arguments. -/
def fill (variadic : Bool) (named : List (String × Value)) :
    List (String × Option Scalar) → List Value → Option (List Value × List Value)
  | [], rest => if variadic || rest.isEmpty then some ([], rest) else none
  | (name, _) :: parameters, v :: rest =>
    if (named.lookup name).isSome then none
    else (fill variadic named parameters rest).map fun (vs, more) => (v :: vs, more)
  | (name, default) :: parameters, [] =>
    match named.lookup name, default with
    | some v, _ => (fill variadic named parameters []).map fun (vs, more) => (v :: vs, more)
    | none, some s => (fill variadic named parameters []).map fun (vs, more) =>
      (.scalar s :: vs, more)
    | none, none => none

/-- Binds arguments: those in order go to the first parameters, those with a name to the others,
each parameter gets one value, and no name is left over. -/
def bind (s : Signature) (ordered : List Value) (named : List (String × Value)) :
    Option (List Value × List Value) :=
  if named.all fun (name, _) => s.parameters.any (·.1 == name) then
    fill s.variadic named s.parameters ordered
  else none

end Signature

namespace Shorthand

open Signature

/-- The signature of a constructor. -/
def signature : Shorthand → Signature
  | .program | .file | .array | .block => (required []).andMore
  | .identifier => required ["name"]
  | .numeric | .boolean => required ["value"]
  | .string => (required ["value"]).optional [("quote", .str "\"")]
  | .null | .breakOff => required []
  | .binary | .logical => required ["op", "left", "right"]
  | .unary => required ["op", "argument"]
  | .update => (required ["op", "argument"]).optional [("prefix", .bool false)]
  | .assignment => (required ["left", "right"]).optional [("op", .str "=")]
  | .conditional => required ["test", "consequent", "alternate"]
  | .member => (required ["obj", "prop"]).optional [("computed", .bool false)]
  | .call => (required ["callee"]).andMore
  | .expression => required ["expression"]
  | .declaration => (required ["name"]).optional [("init", .null), ("kind", .str "let")]
  | .returned => (required []).optional [("argument", .null)]
  | .function => (required ["name", "params"]).andMore
  | .branch => (required ["test", "consequent"]).optional [("alternate", .null)]
  | .whileLoop => required ["test", "body"]
  | .doLoop => required ["body", "test"]
  | .forLoop => required ["init", "test", "step", "body"]
  | .imported => required ["source"]

/-- A string literal from values that should be texts. -/
def stringOf (value quote : Value) : Except RecipeFault Value :=
  match value, quote with
  | .scalar (.str v), .scalar (.str q) => .ok (.string v q)
  | .scalar (.str _), _ => .error .quoteNotText
  | _, _ => .error .notText

/-- Applies a constructor to the values of its parameters and to further arguments. -/
def make : Shorthand → List Value → List Value → Except RecipeFault Value
  | .program, [], body => .ok (.ofNode (.program (.list body)))
  | .file, [], body => .ok (.ofNode (.file (.ofNode (.program (.list body)))))
  | .array, [], elements => .ok (.ofNode (.arrayExpression (.list elements)))
  | .block, [], body => .ok (.block body)
  | .identifier, [name], _ => .ok (.ident name)
  | .numeric, [value], _ => .ok (.num value)
  | .boolean, [value], _ => .ok (.ofNode (.booleanLiteral value))
  | .string, [value, quote], _ => stringOf value quote
  | .null, [], _ => .ok (.ofNode .nullLiteral)
  | .breakOff, [], _ => .ok (.ofNode .breakStatement)
  | .binary, [op, left, right], _ => .ok (.ofNode (.binaryExpression op left right))
  | .logical, [op, left, right], _ => .ok (.ofNode (.logicalExpression op left right))
  | .unary, [op, argument], _ => .ok (.ofNode (.unaryExpression op argument (.bool true)))
  | .update, [op, argument, first], _ => .ok (.ofNode (.updateExpression op argument first))
  | .assignment, [left, right, op], _ => .ok (.ofNode (.assignmentExpression op left right))
  | .conditional, [test, consequent, alternate], _ =>
    .ok (.ofNode (.conditionalExpression test consequent alternate))
  | .member, [object, property, computed], _ =>
    .ok (.ofNode (.memberExpression object property computed))
  | .call, [callee], arguments => .ok (.call callee arguments)
  | .expression, [inner], _ => .ok (.ofNode (.expressionStatement inner))
  | .declaration, [name, init, kind], _ => .ok (.declaration name init kind)
  | .returned, [argument], _ => .ok (.ofNode (.returnStatement argument))
  | .function, [name, params], body =>
    match params.entries? with
    | some names => .ok (.function name names body)
    | none => .error .notList
  | .branch, [test, consequent, alternate], _ =>
    .ok (.ofNode (.ifStatement test consequent alternate))
  | .whileLoop, [test, body], _ => .ok (.ofNode (.whileStatement test body))
  | .doLoop, [body, test], _ => .ok (.ofNode (.doWhileStatement body test))
  | .forLoop, [init, test, step, body], _ => .ok (.ofNode (.forStatement init test step body))
  | .imported, [source], _ => do
    return .ofNode (.importDeclaration (← stringOf source (.str "\"")))
  | _, _, _ => .error .arguments

/-- Applies a constructor to arguments in order and by name. -/
def apply (s : Shorthand) (ordered : List Value) (named : List (String × Value)) :
    Except RecipeFault Value :=
  match s.signature.bind ordered named with
  | some (values, more) => s.make values more
  | none => .error .arguments

end Shorthand

/-- A description of a tree. -/
inductive Recipe where
  | scalar (s : Scalar)
  | list (items : List Recipe)
  | record (fields : List (String × Recipe))
  /-- A construct of no kind. -/
  | bare (pos : Option Pos)
  | apply (s : Shorthand) (ordered : List Recipe) (named : List (String × Recipe))
  deriving Inhabited

namespace Recipe

mutual

/-- The tree that a recipe describes; arguments are built before a constructor is applied. -/
def build : Recipe → Except RecipeFault Value
  | .scalar s => .ok (.scalar s)
  | .list items => do return .list (← buildItems items)
  | .record fields => do return .record (← buildFields fields)
  | .bare pos => .ok (.node pos .bare)
  | .apply s ordered named => do
    let values ← buildItems ordered
    let fields ← buildFields named
    s.apply values fields

/-- The trees that recipes describe. -/
def buildItems : List Recipe → Except RecipeFault (List Value)
  | [] => .ok []
  | r :: rest => do return (← r.build) :: (← buildItems rest)

/-- The trees that named recipes describe. -/
def buildFields : List (String × Recipe) → Except RecipeFault (List (String × Value))
  | [] => .ok []
  | (k, r) :: rest => do return (k, ← r.build) :: (← buildFields rest)

end

end Recipe

end EstreeEmitter
