import EstreeEmitter.Emit.Leaf

set_option autoImplicit false

/-! # Emitting a tree

`emit` writes a tree to the line buffer. Expressions have one form in both dialects; statements
differ. In Ruby every body becomes an indented block that an `end` line closes, a `for` becomes a
`while` loop with its update at the end of the body, an else branch takes back the `end` line of the
branch before it, and a bare expression as the branch of an `if` becomes a return of its value.

The emitter parenthesises by construct, not by precedence: a binary operand of a binary operation, a
logical operand of a logical one, and a unary or update operand of a unary one. -/

namespace EstreeEmitter

/-- The line that stands for a dropped construct; a correction removes it. -/
def deleteMarker : String := "@DELETE@"

namespace Value

/-- The value is an `if` statement. -/
def isIf : Value → Bool
  | .node _ (.ifStatement ..) => true
  | _ => false

/-- The value is a declaration of variables. -/
def isDeclaration : Value → Bool
  | .node _ (.variableDeclaration ..) => true
  | _ => false

/-- The value is a binary operation. -/
def isBinary : Value → Bool
  | .node _ (.binaryExpression ..) => true
  | _ => false

/-- The value is a logical operation. -/
def isLogical : Value → Bool
  | .node _ (.logicalExpression ..) => true
  | _ => false

/-- The value is a unary or an update operation. -/
def isUnaryOrUpdate : Value → Bool
  | .node _ (.unaryExpression ..) => true
  | .node _ (.updateExpression ..) => true
  | _ => false

/-- The value can be gone through entry by entry: a list, a text or plain data. -/
def requireEntries : Value → Except Fault Unit
  | .list _ | .scalar (.str _) | .record _ => .ok ()
  | _ => .error .notList

/-- What stands for a list has no entries. The entries of a text are its characters and those of
plain data its keys; neither are constructs. -/
def requireNoEntries : Value → Except Fault Unit
  | .list items => if items.isEmpty then .ok () else .error .notList
  | .scalar (.str s) => if s.isEmpty then .ok () else .error (.unsupported "str" 0 0)
  | .record fields => if fields.isEmpty then .ok () else .error (.unsupported "str" 0 0)
  | _ => .error .notList

/-- The value is a construct. -/
def requireConstruct : Value → Except Fault Unit
  | .node _ _ => .ok ()
  | _ => .error .notConstruct

/-- The statements of a loop body can be gone through. -/
def requireLoopBody : Value → Except Fault Unit
  | .node _ (.blockStatement body) => body.requireEntries
  | _ => .ok ()

end Value

namespace Emission

/-- An indented block up to its `end` line. -/
def block (inner : Emission) : Emission := do
  indent
  newline
  inner
  trim
  dedent
  newline
  add "end"
  newline

end Emission

open Emission

mutual

/-- Writes what stands at a place for a construct. -/
def emit (d : Dialect) : Value → Emission
  | .node pos n => emitNode d pos n
  | v => stop (.unsupported v.kindName 0 0)

/-- Writes a construct. -/
def emitNode (d : Dialect) (pos : Option Pos) : Node → Emission
  | .program body => emitEach d false body
  | .file program => onlyIf program.isPresent (emit d program)
  | .expressionStatement expression => do
    emit d expression
    onlyIf d.isRuby newline
  | .importDeclaration _ => do
    add deleteMarker
    newline
  | .blockStatement body =>
    match d with
    | .plain => emitEach d false body
    | .ruby => block (emitEach d false body)
  | .functionDeclaration id params body => do
    onlyIf d.isRuby (add "def ")
    emit d id
    add "("
    emitArguments d params
    add ")"
    emit d body
    newline
  | .variableDeclarator id init => do
    emit d id
    if init.isNull then onlyIf d.isRuby (add (" = " ++ d.nullWord))
    else
      add " = "
      emit d init
  | .variableDeclaration _ declarations => emitEach d d.isRuby declarations
  | .returnStatement argument =>
    match d with
    | .plain => onlyIf argument.isPresent (emit d argument)
    | .ruby => do
      add "return "
      onlyIf argument.isPresent (emit d argument)
      newline
  | .ifStatement test consequent alternate =>
    match d with
    | .plain => do
      add "if "
      emit d test
      emit d consequent
      onlyIf alternate.isPresent do
        add "else "
        emit d alternate
    | .ruby => do
      add "if "
      emit d test
      emitBody d true consequent
      onlyIf alternate.isPresent do
        deleteLines 1
        add "else "
        choose alternate.isIf (emit d alternate) (emitBody d false alternate)
  | .whileStatement test body =>
    match d with
    | .plain => do
      add "while ("
      emit d test
      add ")"
      emit d body
    | .ruby => do
      require body.requireConstruct
      add "while ("
      emit d test
      add ")"
      emitBody d false body
  | .doWhileStatement body test =>
    match d with
    | .plain => do
      add "do"
      emit d body
      trim
      add " while ("
      emit d test
      add ")"
      newline
    | .ruby => do
      add "begin"
      emitBody d false body
      trim
      add " while "
      emit d test
      newline
  | .forStatement init test update body =>
    match d with
    | .plain => do
      add "for ("
      onlyIf init.isPresent (emit d init)
      trim
      add "; "
      onlyIf test.isPresent (emit d test)
      add "; "
      onlyIf update.isPresent (emit d update)
      add ")"
      emit d body
    | .ruby => do
      onlyIf init.isPresent <| choose init.isDeclaration (emit d init) do
        require init.requireConstruct
        emit d init
        newline
      require body.requireLoopBody
      onlyIf update.isPresent (require update.requireConstruct)
      add "while ("
      choose test.isPresent (emit d test) (add "true")
      add ")"
      block do
        emitLoopBody d body
        onlyIf update.isPresent do
          emit d update
          newline
  | .breakStatement => do
    add "break"
    newline
  | .assignmentExpression operator left right => do
    emit d left
    addResult (spacedOperator operator)
    emit d right
  | .callExpression callee arguments => do
    emit d callee
    add "("
    emitArguments d arguments
    add ")"
  | .memberExpression object property computed => do
    emit d object
    if computed.isTruthy then
      add "["
      emit d property
      add "]"
    else
      add "."
      emit d property
  | .unaryExpression operator argument isPrefix =>
    match unaryOperator operator with
    | .error fault => stop fault
    | .ok text => do
      onlyIf isPrefix.isTruthy (addResult text)
      parenthesized argument.isUnaryOrUpdate (emit d argument)
      onlyIf (!isPrefix.isTruthy) (addResult text)
  | .updateExpression operator argument isPrefix => do
    onlyIf isPrefix.isTruthy (addResult operator.asText)
    emit d argument
    onlyIf (!isPrefix.isTruthy) (addResult operator.asText)
  | .binaryExpression operator left right => do
    parenthesized left.isBinary (emit d left)
    addResult (spacedOperator operator)
    parenthesized right.isBinary (emit d right)
  | .logicalExpression operator left right => do
    parenthesized left.isLogical (emit d left)
    addResult (spacedOperator operator)
    parenthesized right.isLogical (emit d right)
  | .conditionalExpression test consequent alternate => do
    add "("
    emit d test
    add " ? "
    emit d consequent
    add " : "
    emit d alternate
    add ")"
  | .arrayExpression elements => do
    add "["
    emitArguments d elements
    add "]"
  | .identifier name => addResult name.asText
  | .literal value raw regex => addResult (d.literalText value raw regex)
  | .numericLiteral value extra => addResult (numericText value extra)
  | .stringLiteral value extra => addResult (d.stringText value extra)
  | .booleanLiteral value => add (booleanText value)
  | .nullLiteral => add d.nullWord
  | .regExpLiteral pattern flags extra => addResult (regExpText pattern flags extra)
  | .bare => stop (.unsupportedAt Node.bare.tag pos)

/-- Writes the entries of a list field one after the other, each on lines of its own if
`closing`. -/
def emitEach (d : Dialect) (closing : Bool) : Value → Emission
  | .list items => emitItems d closing items
  | v => require v.requireNoEntries

/-- Writes constructs one after the other. -/
def emitItems (d : Dialect) (closing : Bool) : List Value → Emission
  | [] => pure ()
  | v :: rest => do
    emit d v
    onlyIf closing newline
    emitItems d closing rest

/-- Writes the entries of a list field with commas between them. -/
def emitArguments (d : Dialect) : Value → Emission
  | .list items => emitSeparated d true items
  | v => require v.requireNoEntries

/-- Writes constructs with commas between them; an absent one is the word for null. -/
def emitSeparated (d : Dialect) (first : Bool) : List Value → Emission
  | [] => pure ()
  | v :: rest => do
    onlyIf (!first) (add ", ")
    choose v.isPresent (emit d v) (add d.nullWord)
    emitSeparated d false rest

/-- Writes a statement as a block, and a block as it is. With `returning`, a bare expression becomes
a return of its value. -/
def emitBody (d : Dialect) (returning : Bool) : Value → Emission
  | .node pos n =>
    match n with
    | .blockStatement body => block (emitEach d false body)
    | .expressionStatement expression =>
      if returning then
        block do
          add "return "
          onlyIf expression.isPresent (emit d expression)
          newline
      else
        block do
          emit d expression
          newline
    | n => block (emitNode d pos n)
  | _ => stop .notConstruct

/-- Writes the statements of a loop body. -/
def emitLoopBody (d : Dialect) : Value → Emission
  | .node pos n =>
    match n with
    | .blockStatement body => emitEach d false body
    | n => emitNode d pos n
  | v => stop (.unsupported v.kindName 0 0)

end

/-- The text of a tree in a dialect, before corrections. -/
def Value.generate (d : Dialect) (v : Value) : Except Fault (List Char) :=
  match emit d v Buffer.fresh with
  | .ok _ b => .ok b.text
  | .error fault _ => .error fault

end EstreeEmitter
