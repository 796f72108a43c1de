import EstreeEmitter.Estree.Fault
import EstreeEmitter.Estree.Outline
import EstreeEmitter.Text.Integer

set_option autoImplicit false

/-! # Reading a document

`Value.ofDocument` turns a JSON object into a tree. An object with a `type` becomes the construct of
that tag, with its declared fields in the order of declaration; a field that is missing takes its
default, and other members are ignored. Lists are searched for constructs, plain objects are not.
The position of a construct is read before its tag is looked up. -/

namespace EstreeEmitter

/-! ## Positions -/

/-- A line or column: integers as they are, truth values as 0 and 1, other numbers without their
fraction, texts as the integer they denote. A missing one is 0. -/
def coordinate : Option Json → Except Fault Int
  | none => .ok 0
  | some (.scalar (.int n)) => .ok n
  | some (.scalar (.bool b)) => .ok (if b then 1 else 0)
  | some (.scalar (.real x)) =>
    match x with
    | .nan => .error .positionText
    | .infinite _ => .error .positionRange
    | x => .ok (x.truncate?.getD 0)
  | some (.scalar (.str s)) =>
    match Text.integer? s.toList with
    | some n => .ok n
    | none => .error .positionText
  | some _ => .error .positionKind

/-- The position in the members of an object: the start of its `loc`. -/
def positionOf (members : List (String × Json)) : Except Fault (Option Pos) :=
  match members.lookup "loc" with
  | some (.obj loc) =>
    match loc.lookup "start" with
    | some (.obj start) => do
      let line ← coordinate (start.lookup "line")
      let column ← coordinate (start.lookup "column")
      return some ⟨line, column⟩
    | _ => .ok none
  | _ => .ok none

/-- The tag in the members of an object. -/
def tagOf (members : List (String × Json)) : String :=
  match members.lookup "type" with
  | some j => String.ofList (Value.ofJson j).display
  | none => ""

/-! ## Constructs -/

/-- Fields by name, each already read or refused. -/
abbrev ReadFields := List (String × Except Fault Value)

/-- The field of a name, or the default when it is missing. -/
def ReadFields.field (fields : ReadFields) (name : String) (default : Value) :
    Except Fault Value :=
  (fields.lookup name).getD (.ok default)

/-- The construct of a tag; `none` when the tag is not supported. -/
def Node.ofFields? (tag : String) (fields : ReadFields) : Option (Except Fault Node) :=
  let field := fields.field
  let part (name : String) := field name .null
  let parts (name : String) := field name (.list [])
  match tag with
  | "Program" => some do return .program (← parts "body")
  | "File" => some do return .file (← part "program")
  | "ExpressionStatement" => some do return .expressionStatement (← part "expression")
  | "ImportDeclaration" => some do return .importDeclaration (← part "source")
  | "BlockStatement" => some do return .blockStatement (← parts "body")
  | "FunctionDeclaration" => some do
    return .functionDeclaration (← part "id") (← parts "params") (← part "body")
  | "VariableDeclarator" => some do return .variableDeclarator (← part "id") (← part "init")
  | "VariableDeclaration" => some do
    return .variableDeclaration (← field "kind" (.str "let")) (← parts "declarations")
  | "ReturnStatement" => some do return .returnStatement (← part "argument")
  | "IfStatement" => some do
    return .ifStatement (← part "test") (← part "consequent") (← part "alternate")
  | "WhileStatement" => some do return .whileStatement (← part "test") (← part "body")
  | "DoWhileStatement" => some do return .doWhileStatement (← part "body") (← part "test")
  | "ForStatement" => some do
    return .forStatement (← part "init") (← part "test") (← part "update") (← part "body")
  | "BreakStatement" => some do return .breakStatement
  | "AssignmentExpression" => some do
    return .assignmentExpression (← field "operator" (.str "=")) (← part "left") (← part "right")
  | "CallExpression" => some do return .callExpression (← part "callee") (← parts "arguments")
  | "MemberExpression" => some do
    return .memberExpression (← part "object") (← part "property")
      (← field "computed" (.bool false))
  | "UnaryExpression" => some do
    return .unaryExpression (← field "operator" (.str "")) (← part "argument")
      (← field "prefix" (.bool true))
  | "UpdateExpression" => some do
    return .updateExpression (← field "operator" (.str "++")) (← part "argument")
      (← field "prefix" (.bool false))
  | "BinaryExpression" => some do
    return .binaryExpression (← field "operator" (.str "")) (← part "left") (← part "right")
  | "LogicalExpression" => some do
    return .logicalExpression (← field "operator" (.str "")) (← part "left") (← part "right")
  | "ConditionalExpression" => some do
    return .conditionalExpression (← part "test") (← part "consequent") (← part "alternate")
  | "ArrayExpression" => some do return .arrayExpression (← parts "elements")
  | "Identifier" => some do return .identifier (← field "name" (.str ""))
  | "Literal" => some do return .literal (← part "value") (← part "raw") (← part "regex")
  | "NumericLiteral" => some do
    return .numericLiteral (← field "value" (.scalar (.int 0))) (← part "extra")
  | "StringLiteral" => some do
    return .stringLiteral (← field "value" (.str "")) (← part "extra")
  | "BooleanLiteral" => some do return .booleanLiteral (← field "value" (.bool false))
  | "NullLiteral" => some do return .nullLiteral
  | "RegExpLiteral" => some do
    return .regExpLiteral (← field "pattern" (.str "")) (← field "flags" (.str ""))
      (← part "extra")
  | _ => none

/-- The construct that an object describes, from its members and its fields already read. -/
def Value.ofObject (members : List (String × Json)) (fields : ReadFields) :
    Except Fault Value := do
  let pos ← positionOf members
  match Node.ofFields? (tagOf members) fields with
  | some result => return .node pos (← result)
  | none => .error (.unsupportedAt (tagOf members) pos)

mutual

/-- Reads a field of a document. -/
def Value.read : Json → Except Fault Value
  | .scalar s => .ok (.scalar s)
  | .arr items => do return .list (← readItems items)
  | .obj members =>
    if (members.lookup "type").isSome then Value.ofObject members (readMembers members)
    else .ok (.record (Value.ofMembers members))

/-- Reads items in order, up to the first that is refused. -/
def Value.readItems : List Json → Except Fault (List Value)
  | [] => .ok []
  | j :: rest => do
    let v ← Value.read j
    return v :: (← readItems rest)

/-- Reads every member on its own. -/
def Value.readMembers : List (String × Json) → ReadFields
  | [] => []
  | (k, j) :: rest => (k, Value.read j) :: readMembers rest

end

/-- The tree that a document describes. -/
def Value.ofDocument : Json → Except Fault Value
  | .obj members => Value.ofObject members (Value.readMembers members)
  | j => .error (.notDocument (Value.ofJson j).kindName)

end EstreeEmitter
