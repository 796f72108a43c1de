import EstreeEmitter.Estree.Fault
import EstreeEmitter.Text.Blank
import EstreeEmitter.Text.Scan

set_option autoImplicit false

/-! # The line buffer

Emitted text is collected line by line. The last line is open: text is added to it until a new line
closes it. Closing a line drops the blanks at its end, and a new line starts with the indentation
of the present level. Trimming takes back blank lines and makes the last line with text the open
one again. -/

namespace EstreeEmitter

/-- Lines of text, the last one open, with the present level of indentation. -/
structure Buffer where
  /-- The text of one level of indentation. -/
  indentText : List Char
  /-- The number of levels that a new line is indented by. -/
  level : Nat
  /-- The closed lines, the latest first. -/
  closed : List (List Char)
  /-- The open line. -/
  openLine : List Char

namespace Buffer

/-- A buffer with one empty open line at level zero. -/
def empty (indentText : List Char) : Buffer := ⟨indentText, 0, [], []⟩

/-- An empty buffer with two spaces for a level. -/
def fresh : Buffer := empty [' ', ' ']

/-- All lines in order, the open one last. -/
def lines (b : Buffer) : List (List Char) := b.closed.reverse ++ [b.openLine]

/-- The whole text. -/
def text (b : Buffer) : List Char := Text.joinWith ['\n'] b.lines

/-- Appends text to the open line. -/
def add (b : Buffer) (cs : List Char) : Buffer := { b with openLine := b.openLine ++ cs }

/-- The indentation of the present level. -/
def indentation (b : Buffer) : List Char := (List.replicate b.level b.indentText).flatten

/-- Closes the open line and opens a new one at the present level. -/
def newline (b : Buffer) : Buffer :=
  { b with closed := Text.trimRight b.openLine :: b.closed, openLine := b.indentation }

/-- One level deeper. -/
def indent (b : Buffer) : Buffer := { b with level := b.level + 1 }

/-- One level back. -/
def dedent (b : Buffer) : Except BufferFault Buffer :=
  match b.level with
  | 0 => .error .dedentAtZero
  | level + 1 => .ok { b with level }

/-- The latest line that is not blank, without the blanks at its end, and the lines before it. When
all lines are blank the first one is left, empty. -/
def reopen : List Char → List (List Char) → List Char × List (List Char)
  | line, [] => (Text.trimRight line, [])
  | line, previous :: before =>
    if Text.isBlankText line then reopen previous before
    else (Text.trimRight line, previous :: before)

/-- Drops blank lines and blanks at the end; the last line with text becomes the open one. -/
def trim (b : Buffer) : Buffer :=
  let (openLine, closed) := reopen b.openLine b.closed
  { b with closed, openLine }

/-- Removes the `count` closed lines before the open one. -/
def deleteLines (b : Buffer) (count : Int) : Except BufferFault Buffer :=
  if count < 0 || b.closed.length < count then .error (.deleteLines count b.closed.length)
  else .ok { b with closed := b.closed.drop count.toNat }

end Buffer

end EstreeEmitter
