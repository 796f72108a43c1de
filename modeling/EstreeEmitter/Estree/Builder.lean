import EstreeEmitter.Estree.Outline
import EstreeEmitter.Text.Scan

set_option autoImplicit false

/-! # Short constructors

Trees can be built without a document; the constructs then have no position. Only what needs more
than its parts has a function here. -/

namespace EstreeEmitter

namespace Value

/-- A construct without a position. -/
def ofNode (n : Node) : Value := .node none n

/-- A name. -/
def ident (name : Value) : Value := ofNode (.identifier name)

/-- The annotation of a literal: its text in the source, and its value. -/
def rawExtra (raw : List Char) (value : Value) : Value :=
  .record [("raw", .str (String.ofList raw)), ("rawValue", value)]

/-- A number, written as it is shown. -/
def num (value : Value) : Value := ofNode (.numericLiteral value (rawExtra value.display value))

/-- A text between quotes, with backslashes before backslashes and before the quote. -/
def quotedRaw (value quote : List Char) : List Char :=
  let doubled := Text.replaceAll ['\\'] ['\\', '\\'] value
  quote ++ Text.replaceAll quote ('\\' :: quote) doubled ++ quote

/-- A string literal with a quote. -/
def string (value quote : String) : Value :=
  ofNode (.stringLiteral (.str value) (rawExtra (quotedRaw value.toList quote.toList) (.str value)))

/-- A member of an object under a name. -/
def member (object property : Value) : Value :=
  ofNode (.memberExpression object property (.bool false))

/-- A name of several parts with dots between them, as members of members. -/
def dotted (name : List Char) : Value :=
  match (Text.splitOn '.' name).map fun part => ident (.str (String.ofList part)) with
  | [] => ident (.str "")
  | first :: rest => rest.foldl member first

/-- A call; a text for the callee is a dotted name. -/
def call (callee : Value) (arguments : List Value) : Value :=
  match callee with
  | .scalar (.str name) => ofNode (.callExpression (dotted name.toList) (.list arguments))
  | _ => ofNode (.callExpression callee (.list arguments))

/-- The declaration of one variable. -/
def declaration (name init kind : Value) : Value :=
  ofNode (.variableDeclaration kind (.list [ofNode (.variableDeclarator (ident name) init)]))

/-- A block of statements. -/
def block (body : List Value) : Value := ofNode (.blockStatement (.list body))

/-- A function with parameters of these names. -/
def function (name : Value) (params body : List Value) : Value :=
  ofNode (.functionDeclaration (ident name) (.list (params.map ident)) (block body))

/-- The entries of a value: the items of a list, the characters of a text, the keys of plain data;
`none` for what has no entries. -/
def entries? : Value → Option (List Value)
  | .list items => some items
  | .scalar (.str s) => some (s.toList.map fun c => .str (String.ofList [c]))
  | .record fields => some (fields.map fun (k, _) => .str k)
  | _ => none

end Value

end EstreeEmitter
