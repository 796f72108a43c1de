import EstreeEmitter.Proofs.Printer.Expression
import Mathlib.Data.List.DropRight

set_option autoImplicit false

/-! # Statements on lines

A `Statement` is a statement of the written Ruby text: a line of its own, or a construct with
statements inside it that an `end` line closes. `Statement.lines` lays it out at a level of
indentation. `statements` reads the statements off a tree: a `for` loop is its initializer followed
by a `while` loop with the update at the end of its body, a declaration is a line for every
variable, and a single statement as a branch or a loop body is a body of one statement. -/

namespace EstreeEmitter

mutual

/-- A statement of the written text. -/
inductive Statement where
  /-- A line of its own. -/
  | line (text : List Char)
  /-- A method with its name and parameters. -/
  | method (signature : List Char) (body : List Statement)
  /-- A loop with the test before its body. -/
  | loop (test : List Char) (body : List Statement)
  /-- A loop with the test behind its body. -/
  | lateLoop (body : List Statement) (test : List Char)
  /-- A choice with its first branch. -/
  | choice (test : List Char) (body : List Statement) (others : Branches)

/-- The branches of a choice behind one of them. -/
inductive Branches where
  | none
  | elseIf (test : List Char) (body : List Statement) (others : Branches)
  | otherwise (body : List Statement)

end

/-! ## Layout -/

/-- The indentation of a level: two spaces for each. -/
def margin (level : Nat) : List Char := (List.replicate level [' ', ' ']).flatten

/-- A text on a line of the given level, without blanks at its end. -/
def lineAt (level : Nat) (text : List Char) : List Char := Text.trimRight (margin level ++ text)

/-- The lines without the blank ones at the end. -/
def dropBlankEnd (lines : List (List Char)) : List (List Char) := lines.rdropWhile Text.isBlankText

/-- A header line, the lines of a body up to its last one with text, and the lines that close it. -/
def framed (level : Nat) (header : List Char) (body closing : List (List Char)) :
    List (List Char) :=
  lineAt level header :: dropBlankEnd body ++ closing

/-- The line that closes a body. -/
def endLine (level : Nat) : List Char := lineAt level "end".toList

mutual

/-- The lines of a statement at a level. A method is followed by an empty line. -/
def Statement.lines (level : Nat) : Statement → List (List Char)
  | .line text => [lineAt level text]
  | .method signature body =>
    framed level ("def ".toList ++ signature) (linesOf (level + 1) body) [endLine level, []]
  | .loop test body =>
    framed level ("while (".toList ++ test ++ [')']) (linesOf (level + 1) body) [endLine level]
  | .lateLoop body test =>
    framed level "begin".toList (linesOf (level + 1) body)
      [lineAt level ("end while ".toList ++ test)]
  | .choice test body others =>
    framed level ("if ".toList ++ test) (linesOf (level + 1) body) (others.lines level)

/-- The lines of the other branches of a choice, with the one `end` of the whole choice. -/
def Branches.lines (level : Nat) : Branches → List (List Char)
  | .none => [endLine level]
  | .elseIf test body others =>
    framed level ("else if ".toList ++ test) (linesOf (level + 1) body) (others.lines level)
  | .otherwise body =>
    framed level "else".toList (linesOf (level + 1) body) [endLine level]

/-- The lines of statements one after the other. -/
def linesOf (level : Nat) : List Statement → List (List Char)
  | [] => []
  | s :: rest => s.lines level ++ linesOf level rest

end

mutual

/-- The texts on the lines of a statement, without their indentation. -/
def Statement.texts : Statement → List (List Char)
  | .line text => [text]
  | .method signature body => ("def ".toList ++ signature) :: "end".toList :: textsOf body
  | .loop test body => ("while (".toList ++ test ++ [')']) :: "end".toList :: textsOf body
  | .lateLoop body test => "begin".toList :: ("end while ".toList ++ test) :: textsOf body
  | .choice test body others => ("if ".toList ++ test) :: (textsOf body ++ others.texts)

/-- The texts on the lines of the other branches of a choice. -/
def Branches.texts : Branches → List (List Char)
  | .none => ["end".toList]
  | .elseIf test body others => ("else if ".toList ++ test) :: (textsOf body ++ others.texts)
  | .otherwise body => "else".toList :: "end".toList :: textsOf body

/-- The texts on the lines of several statements. -/
def textsOf : List Statement → List (List Char)
  | [] => []
  | s :: rest => s.texts ++ textsOf rest

end

/-! ## The statements of a tree -/

/-- The text of a declared variable with its value. -/
def declaratorText : Value → Except Fault (List Char)
  | .node _ (.variableDeclarator id init) =>
    joined [expressionText .ruby id, .ok " = ".toList,
      if init.isPresent then expressionText .ruby init else .ok Dialect.ruby.nullWord.toList]
  | v => .error (.unsupported v.kindName 0 0)

/-- A line for every declared variable. -/
def declaratorLines : List Value → Except Fault (List Statement)
  | [] => .ok []
  | v :: rest => do return .line (← declaratorText v) :: (← declaratorLines rest)

/-- The lines of a declaration. -/
def declarationStatements : Value → Except Fault (List Statement)
  | .list items => declaratorLines items
  | v => v.requireNoEntries.map fun _ => []

/-- The value of an expression, handed back. -/
def returnText (argument : Value) : Except Fault (List Char) :=
  joined [.ok "return ".toList, textIf argument.isPresent (expressionText .ruby argument)]

/-- The name and the parameters of a method. -/
def signatureText (id params : Value) : Except Fault (List Char) :=
  joined [expressionText .ruby id, .ok ['('], listText .ruby params, .ok [')']]

/-- The initializer of a `for` loop as statements before the loop. -/
def initStatements : Value → Except Fault (List Statement)
  | .scalar .null => .ok []
  | .node _ (.variableDeclaration _ declarations) => declarationStatements declarations
  | v => do return [.line (← expressionText .ruby v)]

/-- The test of a `for` loop; without one it goes on forever. -/
def loopTest (test : Value) : Except Fault (List Char) :=
  if test.isPresent then expressionText .ruby test else .ok "true".toList

/-- The update of a `for` loop as a statement at the end of its body. -/
def updateStatements (update : Value) : Except Fault (List Statement) :=
  if update.isPresent then do return [.line (← expressionText .ruby update)] else .ok []

mutual

/-- The statements that a value stands for. -/
def statements : Value → Except Fault (List Statement)
  | .node pos n => constructStatements pos n
  | v => .error (.unsupported v.kindName 0 0)

/-- The statements that a construct stands for. -/
def constructStatements (pos : Option Pos) : Node → Except Fault (List Statement)
  | .expressionStatement expression => do return [.line (← expressionText .ruby expression)]
  | .importDeclaration _ => .ok [.line deleteMarker.toList]
  | .breakStatement => .ok [.line "break".toList]
  | .returnStatement argument => do return [.line (← returnText argument)]
  | .variableDeclaration _ declarations => declarationStatements declarations
  | .functionDeclaration id params body => do
    return [.method (← signatureText id params) (← bodyStatements false body)]
  | .ifStatement test consequent alternate => do
    return [.choice (← expressionText .ruby test) (← bodyStatements true consequent)
      (← branches alternate)]
  | .whileStatement test body => do
    return [.loop (← expressionText .ruby test) (← bodyStatements false body)]
  | .doWhileStatement body test => do
    return [.lateLoop (← bodyStatements false body) (← expressionText .ruby test)]
  | .forStatement init test update body => do
    let before ← initStatements init
    let test ← loopTest test
    let inner ← bodyStatements false body
    return before ++ [.loop test (inner ++ (← updateStatements update))]
  | n => .error (.unsupportedAt n.tag pos)

/-- The statements of a body. With `returning`, a bare expression is handed back. -/
def bodyStatements (returning : Bool) : Value → Except Fault (List Statement)
  | .node pos n =>
    match n with
    | .blockStatement body => listStatements body
    | .expressionStatement expression => do
      return [.line (← if returning then returnText expression
        else expressionText .ruby expression)]
    | n => constructStatements pos n
  | _ => .error .notConstruct

/-- The branches that an alternate stands for: an `if` goes on with the choice. -/
def branches : Value → Except Fault Branches
  | .scalar .null => .ok .none
  | .node pos n =>
    match n with
    | .ifStatement test consequent alternate => do
      return .elseIf (← expressionText .ruby test) (← bodyStatements true consequent)
        (← branches alternate)
    | .blockStatement body => do return .otherwise (← listStatements body)
    | n => do return .otherwise (← constructStatements pos n)
  | _ => .error .notConstruct

/-- The statements of a list field. -/
def listStatements : Value → Except Fault (List Statement)
  | .list items => allStatements items
  | v => v.requireNoEntries.map fun _ => []

/-- The statements of several values in order. -/
def allStatements : List Value → Except Fault (List Statement)
  | [] => .ok []
  | v :: rest => do return (← statements v) ++ (← allStatements rest)

end

/-! ## Well-formed statements -/

/-- The value is absent or an expression. -/
def Value.isOptionalExpression (v : Value) : Bool := v.isNull || v.isExpression

/-- The value declares a variable. -/
def Value.isDeclarator : Value → Bool
  | .node _ (.variableDeclarator id init) => id.isExpression && init.isOptionalExpression
  | _ => false

/-- The value is a list of declared variables. -/
def Value.isDeclaratorList : Value → Bool
  | .list items => items.all isDeclarator
  | _ => false

/-- The value is an initializer of a `for` loop. -/
def Value.isInitializer : Value → Bool
  | .node _ (.variableDeclaration _ declarations) => declarations.isDeclaratorList
  | v => v.isOptionalExpression

mutual

/-- The value is a statement, with expressions, declared variables and blocks only where they
belong. -/
def Value.isStatement : Value → Bool
  | .node _ n => n.isStatement
  | _ => false

/-- The construct is a statement other than a block. -/
def Node.isStatement : Node → Bool
  | .expressionStatement expression => expression.isExpression
  | .importDeclaration _ => true
  | .breakStatement => true
  | .returnStatement argument => argument.isOptionalExpression
  | .variableDeclaration _ declarations => declarations.isDeclaratorList
  | .functionDeclaration id params body =>
    id.isExpression && params.isExpressionList && body.isBlock
  | .ifStatement test consequent alternate =>
    test.isExpression && consequent.isBody && (alternate.isNull || alternate.isBody)
  | .whileStatement test body => test.isExpression && body.isBody
  | .doWhileStatement body test => body.isBody && test.isExpression
  | .forStatement init test update body =>
    init.isInitializer && test.isOptionalExpression && update.isOptionalExpression && body.isBody
  | _ => false

/-- The value is a block of statements. -/
def Value.isBlock : Value → Bool
  | .node _ (.blockStatement body) => body.isStatementList
  | _ => false

/-- The value is a branch or a loop body: a block or a single statement. -/
def Value.isBody : Value → Bool
  | .node _ n =>
    match n with
    | .blockStatement body => body.isStatementList
    | n => n.isStatement
  | _ => false

/-- The value is a list of statements. -/
def Value.isStatementList : Value → Bool
  | .list items => areStatements items
  | _ => false

/-- All values are statements. -/
def areStatements : List Value → Bool
  | [] => true
  | v :: rest => v.isStatement && areStatements rest

end

end EstreeEmitter
