import EstreeEmitter.Buffer

set_option autoImplicit false

/-! # Emissions

An emission writes to a line buffer and may stop with a fault; what was written before stays in the
buffer. -/

namespace EstreeEmitter

/-- A step that writes to the buffer or stops with a fault. -/
abbrev Emission := EStateM Fault Buffer Unit

namespace Emission

/-- Stops with a fault. -/
def stop (fault : Fault) : Emission := fun b => .error fault b

/-- A change of the buffer that always succeeds. -/
def change (f : Buffer → Buffer) : Emission := fun b => .ok () (f b)

/-- A change of the buffer that the buffer may refuse. -/
def attempt (f : Buffer → Except BufferFault Buffer) : Emission := fun b =>
  match f b with
  | .ok b' => .ok () b'
  | .error cause => .error (.buffer cause) b

/-- Goes on if a check succeeds. -/
def require (check : Except Fault Unit) : Emission := fun b =>
  match check with
  | .ok _ => .ok () b
  | .error fault => .error fault b

/-- Appends characters to the open line. -/
def addChars (cs : List Char) : Emission := change (·.add cs)

/-- Appends a fixed text to the open line. -/
def add (s : String) : Emission := addChars s.toList

/-- Appends a text if it could be made. -/
def addResult (text : Except Fault (List Char)) : Emission := fun b =>
  match text with
  | .ok cs => .ok () (b.add cs)
  | .error fault => .error fault b

/-- Closes the open line. -/
def newline : Emission := change Buffer.newline

/-- One level deeper. -/
def indent : Emission := change Buffer.indent

/-- One level back. -/
def dedent : Emission := attempt Buffer.dedent

/-- Takes back blanks and blank lines. -/
def trim : Emission := change Buffer.trim

/-- Removes closed lines before the open one. -/
def deleteLines (count : Int) : Emission := attempt (·.deleteLines count)

/-- The first emission if the condition holds, else the second. -/
def choose (condition : Bool) (first second : Emission) : Emission :=
  if condition then first else second

/-- The emission if the condition holds, else nothing. -/
def onlyIf (condition : Bool) (e : Emission) : Emission := choose condition e (pure ())

/-- The emission in parentheses if `grouped`. -/
def parenthesized (grouped : Bool) (inner : Emission) : Emission := do
  onlyIf grouped (add "(")
  inner
  onlyIf grouped (add ")")

end Emission

end EstreeEmitter
