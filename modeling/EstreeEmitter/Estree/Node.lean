import EstreeEmitter.Json.Basic

set_option autoImplicit false

/-! # ESTree constructs

A `Node` is one of the constructs of the supported part of JavaScript. Its fields hold whatever the
document had there: a `Value` is a construct with its position, or plain data. Documents may be
malformed, so a field that should hold an expression can hold a number or nothing; the emitter
decides what it accepts. -/

namespace EstreeEmitter

/-- A place in a source text: the line counted from one, the column from zero. -/
structure Pos where
  line : Int
  column : Int
  deriving DecidableEq, Repr

mutual

/-- A construct. -/
inductive Node where
  | program (body : Value)
  | file (program : Value)
  | expressionStatement (expression : Value)
  | importDeclaration (source : Value)
  | blockStatement (body : Value)
  | functionDeclaration (id params body : Value)
  | variableDeclarator (id init : Value)
  | variableDeclaration (kind declarations : Value)
  | returnStatement (argument : Value)
  | ifStatement (test consequent alternate : Value)
  | whileStatement (test body : Value)
  | doWhileStatement (body test : Value)
  | forStatement (init test update body : Value)
  | breakStatement
  | assignmentExpression (operator left right : Value)
  | callExpression (callee arguments : Value)
  | memberExpression (object property computed : Value)
  | unaryExpression (operator argument isPrefix : Value)
  | updateExpression (operator argument isPrefix : Value)
  | binaryExpression (operator left right : Value)
  | logicalExpression (operator left right : Value)
  | conditionalExpression (test consequent alternate : Value)
  | arrayExpression (elements : Value)
  | identifier (name : Value)
  | literal (value raw regex : Value)
  | numericLiteral (value extra : Value)
  | stringLiteral (value extra : Value)
  | booleanLiteral (value : Value)
  | nullLiteral
  | regExpLiteral (pattern flags extra : Value)
  /-- A construct of no kind; it has no text. -/
  | bare

/-- What a field of a construct holds. -/
inductive Value where
  | scalar (s : Scalar)
  | list (items : List Value)
  /-- Plain data under keys: an object of the document without a `type`. -/
  | record (fields : List (String × Value))
  | node (pos : Option Pos) (n : Node)

end

namespace Value

/-- The absent value. -/
def null : Value := .scalar .null

/-- A text. -/
def str (s : String) : Value := .scalar (.str s)

/-- A truth value. -/
def bool (b : Bool) : Value := .scalar (.bool b)

/-- The value is absent. -/
def isNull : Value → Bool
  | .scalar .null => true
  | _ => false

/-- The value is not absent. -/
def isPresent (v : Value) : Bool := !v.isNull

/-- The value counts as true: it is a construct, or data other than null, false, zero and what is
empty. -/
def isTruthy : Value → Bool
  | .scalar .null => false
  | .scalar (.bool b) => b
  | .scalar (.int n) => n != 0
  | .scalar (.real x) => !x.isZero
  | .scalar (.str s) => !s.isEmpty
  | .list items => !items.isEmpty
  | .record fields => !fields.isEmpty
  | .node _ _ => true

mutual

/-- A document as plain data, without looking for constructs in it. -/
def ofJson : Json → Value
  | .scalar s => .scalar s
  | .arr items => .list (ofItems items)
  | .obj members => .record (ofMembers members)

/-- Items as plain data. -/
def ofItems : List Json → List Value
  | [] => []
  | j :: rest => ofJson j :: ofItems rest

/-- Members as plain data. -/
def ofMembers : List (String × Json) → List (String × Value)
  | [] => []
  | (k, j) :: rest => (k, ofJson j) :: ofMembers rest

end

mutual

/-- Plain data as a JSON value; `none` when a construct is part of it. -/
def toJson? : Value → Option Json
  | .scalar s => some (.scalar s)
  | .list items => (toItems? items).map .arr
  | .record fields => (toMembers? fields).map .obj
  | .node _ _ => none

/-- Items as JSON values. -/
def toItems? : List Value → Option (List Json)
  | [] => some []
  | v :: rest => do return (← toJson? v) :: (← toItems? rest)

/-- Fields as members. -/
def toMembers? : List (String × Value) → Option (List (String × Json))
  | [] => some []
  | (k, v) :: rest => do return (k, ← toJson? v) :: (← toMembers? rest)

end

end Value

namespace Node

/-- The tag of a construct in a document. -/
def tag : Node → String
  | .program .. => "Program"
  | .file .. => "File"
  | .expressionStatement .. => "ExpressionStatement"
  | .importDeclaration .. => "ImportDeclaration"
  | .blockStatement .. => "BlockStatement"
  | .functionDeclaration .. => "FunctionDeclaration"
  | .variableDeclarator .. => "VariableDeclarator"
  | .variableDeclaration .. => "VariableDeclaration"
  | .returnStatement .. => "ReturnStatement"
  | .ifStatement .. => "IfStatement"
  | .whileStatement .. => "WhileStatement"
  | .doWhileStatement .. => "DoWhileStatement"
  | .forStatement .. => "ForStatement"
  | .breakStatement => "BreakStatement"
  | .assignmentExpression .. => "AssignmentExpression"
  | .callExpression .. => "CallExpression"
  | .memberExpression .. => "MemberExpression"
  | .unaryExpression .. => "UnaryExpression"
  | .updateExpression .. => "UpdateExpression"
  | .binaryExpression .. => "BinaryExpression"
  | .logicalExpression .. => "LogicalExpression"
  | .conditionalExpression .. => "ConditionalExpression"
  | .arrayExpression .. => "ArrayExpression"
  | .identifier .. => "Identifier"
  | .literal .. => "Literal"
  | .numericLiteral .. => "NumericLiteral"
  | .stringLiteral .. => "StringLiteral"
  | .booleanLiteral .. => "BooleanLiteral"
  | .nullLiteral => "NullLiteral"
  | .regExpLiteral .. => "RegExpLiteral"
  | .bare => "Node"

end Node

end EstreeEmitter
