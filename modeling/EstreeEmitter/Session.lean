import EstreeEmitter.Buffer.Action
import EstreeEmitter.Emit
import EstreeEmitter.Estree.Load
import EstreeEmitter.Passes.Pipeline

set_option autoImplicit false

/-! # Sessions

A session keeps one buffer over several requests. A request that fails leaves in the buffer what it
had written. -/

namespace EstreeEmitter

/-- The text of a tree after all corrections. -/
def Value.translate (table : Table) (v : Value) : Except Fault (List Char) := do
  return correct table (← v.generate .ruby)

/-- The text of a document after all corrections. -/
def translate (table : Table) (document : Json) : Except Fault (List Char) := do
  (← Value.ofDocument document).translate table

/-- A dialect with its corrections and the buffer that is written to. -/
structure Session where
  dialect : Dialect
  table : Table
  buffer : Buffer

namespace Session

/-- A request to a session. -/
inductive Request where
  /-- The whole text of a document, corrected where the dialect has corrections. -/
  | translate (document : Json)
  /-- The whole text of a document before corrections. -/
  | generate (document : Json)
  /-- The text of a document after what is in the buffer. -/
  | append (document : Json)
  /-- The corrected form of a text. -/
  | correct (code : List Char)
  /-- An empty buffer. -/
  | clear
  /-- A call of the buffer. -/
  | buffer (action : Buffer.Action)

/-- What a request answers. -/
inductive Answer where
  | done
  | text (cs : List Char)
  | buffer (answer : Buffer.Answer)

/-- A session with an empty buffer. -/
def start (dialect : Dialect) (table : Table) : Session := ⟨dialect, table, .fresh⟩

/-- The session with another buffer. -/
def withBuffer (s : Session) (b : Buffer) : Session := { s with buffer := b }

/-- Writes a tree to a buffer; the answer is `finish` of all the text in it. -/
def write (s : Session) (v : Value) (b : Buffer) (finish : List Char → List Char) :
    Except Fault Answer × Session :=
  match emit s.dialect v b with
  | .ok _ b' => (.ok (.text (finish b'.text)), s.withBuffer b')
  | .error fault b' => (.error fault, s.withBuffer b')

/-- Reads a document and goes on with its tree. -/
def withTree (s : Session) (document : Json) (next : Value → Except Fault Answer × Session) :
    Except Fault Answer × Session :=
  match Value.ofDocument document with
  | .ok v => next v
  | .error fault => (.error fault, s)

/-- The corrections of the session's dialect. -/
def finish (s : Session) (code : List Char) : List Char :=
  match s.dialect with
  | .plain => code
  | .ruby => correct s.table code

/-- The answer to a request and the session after it. -/
def step (s : Session) : Request → Except Fault Answer × Session
  | .translate document => s.withTree document fun v => s.write v .fresh s.finish
  | .generate document => s.withTree document fun v => s.write v .fresh id
  | .append document => s.withTree document fun v => s.write v s.buffer id
  | .correct code => (.ok (.text (s.finish code)), s)
  | .clear => (.ok .done, s.withBuffer .fresh)
  | .buffer action =>
    match s.buffer.perform action with
    | (.ok answer, b) => (.ok (.buffer answer), s.withBuffer b)
    | (.error cause, b) => (.error (.buffer cause), s.withBuffer b)

end Session

end EstreeEmitter
