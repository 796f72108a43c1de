import EstreeEmitter.Estree.Node
import EstreeEmitter.Text.Quoted

set_option autoImplicit false

/-! # Outlines of trees

An outline shows every construct of a tree in one form: its tag, its position, and its fields under
their names in the order in which they are declared. Values are shown in messages through their
outline. -/

namespace EstreeEmitter

/-- A tree in which all constructs have one form. -/
inductive Outline where
  | scalar (s : Scalar)
  | list (items : List Outline)
  | record (fields : List (String × Outline))
  | node (tag : String) (pos : Option Pos) (fields : List (String × Outline))

mutual

/-- The outline of a value. -/
def Value.outline : Value → Outline
  | .scalar s => .scalar s
  | .list items => .list (outlineItems items)
  | .record fields => .record (outlineFields fields)
  | .node pos n => .node n.tag pos (outlineNode n)

/-- The named fields of a construct, in outline. -/
def Value.outlineNode : Node → List (String × Outline)
  | .program body => [("body", body.outline)]
  | .file program => [("program", program.outline)]
  | .expressionStatement expression => [("expression", expression.outline)]
  | .importDeclaration source => [("source", source.outline)]
  | .blockStatement body => [("body", body.outline)]
  | .functionDeclaration id params body =>
    [("id", id.outline), ("params", params.outline), ("body", body.outline)]
  | .variableDeclarator id init => [("id", id.outline), ("init", init.outline)]
  | .variableDeclaration kind declarations =>
    [("kind", kind.outline), ("declarations", declarations.outline)]
  | .returnStatement argument => [("argument", argument.outline)]
  | .ifStatement test consequent alternate =>
    [("test", test.outline), ("consequent", consequent.outline), ("alternate", alternate.outline)]
  | .whileStatement test body => [("test", test.outline), ("body", body.outline)]
  | .doWhileStatement body test => [("body", body.outline), ("test", test.outline)]
  | .forStatement init test update body =>
    [("init", init.outline), ("test", test.outline), ("update", update.outline),
      ("body", body.outline)]
  | .breakStatement => []
  | .assignmentExpression operator left right =>
    [("operator", operator.outline), ("left", left.outline), ("right", right.outline)]
  | .callExpression callee arguments =>
    [("callee", callee.outline), ("arguments", arguments.outline)]
  | .memberExpression object property computed =>
    [("object", object.outline), ("property", property.outline), ("computed", computed.outline)]
  | .unaryExpression operator argument isPrefix =>
    [("operator", operator.outline), ("argument", argument.outline), ("prefix", isPrefix.outline)]
  | .updateExpression operator argument isPrefix =>
    [("operator", operator.outline), ("argument", argument.outline), ("prefix", isPrefix.outline)]
  | .binaryExpression operator left right =>
    [("operator", operator.outline), ("left", left.outline), ("right", right.outline)]
  | .logicalExpression operator left right =>
    [("operator", operator.outline), ("left", left.outline), ("right", right.outline)]
  | .conditionalExpression test consequent alternate =>
    [("test", test.outline), ("consequent", consequent.outline), ("alternate", alternate.outline)]
  | .arrayExpression elements => [("elements", elements.outline)]
  | .identifier name => [("name", name.outline)]
  | .literal value raw regex =>
    [("value", value.outline), ("raw", raw.outline), ("regex", regex.outline)]
  | .numericLiteral value extra => [("value", value.outline), ("extra", extra.outline)]
  | .stringLiteral value extra => [("value", value.outline), ("extra", extra.outline)]
  | .booleanLiteral value => [("value", value.outline)]
  | .nullLiteral => []
  | .regExpLiteral pattern flags extra =>
    [("pattern", pattern.outline), ("flags", flags.outline), ("extra", extra.outline)]
  | .bare => []

/-- The outlines of items. -/
def Value.outlineItems : List Value → List Outline
  | [] => []
  | v :: rest => v.outline :: outlineItems rest

/-- The outlines of fields. -/
def Value.outlineFields : List (String × Value) → List (String × Outline)
  | [] => []
  | (k, v) :: rest => (k, v.outline) :: outlineFields rest

end

/-- The words for what is not a finite number, in messages. -/
def shownWords : Binary64.Words := ⟨"nan", "inf"⟩

/-- A scalar in a message; text is quoted. -/
def Scalar.shown : Scalar → List Char
  | .null => "None".toList
  | .bool true => "True".toList
  | .bool false => "False".toList
  | .int n => (toString n).toList
  | .real x => (x.text shownWords).toList
  | .str s => Text.quoted s.toList

mutual

/-- A value in a message: a list in brackets, plain data in braces, a construct as its tag with its
fields in parentheses. -/
def Outline.shown : Outline → List Char
  | .scalar s => s.shown
  | .list items => '[' :: shownItems items ++ [']']
  | .record fields => '\x7b' :: shownMembers fields ++ ['\x7d']
  | .node tag _ fields => tag.toList ++ '(' :: shownFields fields ++ [')']

/-- Items with a comma and a space between them. -/
def Outline.shownItems : List Outline → List Char
  | [] => []
  | [o] => o.shown
  | o :: rest => o.shown ++ ',' :: ' ' :: shownItems rest

/-- Members of plain data: quoted key, colon, value. -/
def Outline.shownMembers : List (String × Outline) → List Char
  | [] => []
  | [(k, o)] => Text.quoted k.toList ++ ':' :: ' ' :: o.shown
  | (k, o) :: rest =>
    Text.quoted k.toList ++ ':' :: ' ' :: o.shown ++ ',' :: ' ' :: shownMembers rest

/-- Fields of a construct: name, equals sign, value. -/
def Outline.shownFields : List (String × Outline) → List Char
  | [] => []
  | [(k, o)] => k.toList ++ '=' :: o.shown
  | (k, o) :: rest => k.toList ++ '=' :: o.shown ++ ',' :: ' ' :: shownFields rest

end

namespace Value

/-- A value as text: a text is itself, anything else is as in a message. -/
def display : Value → List Char
  | .scalar (.str s) => s.toList
  | v => v.outline.shown

/-- The name of the kind of a value; a construct is named by its tag. -/
def kindName : Value → String
  | .scalar .null => "NoneType"
  | .scalar (.bool _) => "bool"
  | .scalar (.int _) => "int"
  | .scalar (.real _) => "float"
  | .scalar (.str _) => "str"
  | .list _ => "list"
  | .record _ => "dict"
  | .node _ n => n.tag

end Value

end EstreeEmitter
