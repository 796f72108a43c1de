import EstreeEmitter.CommandLine.Options
import EstreeEmitter.Corrections.Default
import EstreeEmitter.Corrections.File
import EstreeEmitter.Session

set_option autoImplicit false

/-! # The command line program

A run reads a table if one is named, then the document, and writes the text to one destination. All
that it does to its surroundings goes through a `Host`, so a run against a folder in memory is a
pure function. A failure is a cause; it says which exit code it has, or that it ends the program at
once. -/

namespace EstreeEmitter

namespace CommandLine

/-- Why a run fails. -/
inductive Failure where
  | usage (fault : UsageFault)
  | table (fault : TableFault)
  | cannotOpen (path : String)
  | notUtf8
  | noInput
  | notJson (reason : String)
  | notObject
  | tree (fault : Fault)
  | cannotWrite (path : String)
  /-- A path with a null character. -/
  | nullInPath
  deriving DecidableEq, Repr

/-- A failure as it is reported; `none` for one that ends the program at once. -/
def Failure.report? : Failure → Option String
  | .usage fault => some s!"error: {fault.message}\n"
  | .table fault => fault.message?.map fun m => s!"error: {m}\n"
  | .cannotOpen path => some s!"error: cannot open '{path}'\n"
  | .notUtf8 => some "error: invalid utf-8 in input\n"
  | .noInput => some "error: no input provided\n"
  | .notJson reason => some s!"error: input is not valid JSON: {reason}\n"
  | .notObject => some "error: input must be an ESTree node object\n"
  | .tree (.unsupported tag line column) =>
    (Fault.unsupported tag line column).message?.map fun m => s!"{m}\n"
  | .tree (.buffer cause) => some s!"error: internal: {cause.message}\n"
  | .tree _ => none
  | .cannotWrite path => some s!"error: cannot write '{path}'\n"
  | .nullInPath => none

/-- The exit code of a failure that is reported: 2 for wrong use and missing input, else 1. -/
def Failure.code? (f : Failure) : Option Nat :=
  f.report?.map fun _ =>
    match f with
    | .usage _ | .noInput => 2
    | _ => 1

/-- What a run leaves: a failure if there was one, the standard output, and the notes. -/
structure Outcome where
  failure : Option Failure := none
  stdout : List Char := []
  notes : List Note := []

namespace Outcome

/-- The exit code; `none` when a failure ended the program at once. -/
def code? (o : Outcome) : Option Nat :=
  match o.failure with
  | none => some 0
  | some f => f.code?

/-- The standard error output: the notes, then the report of a failure. -/
def stderr (o : Outcome) : String :=
  String.join (o.notes.map Note.line) ++ ((o.failure.bind Failure.report?).getD "")

end Outcome

/-- The surroundings of a run: files to read, the standard input, and files to write. Writing
answers whether the file could be opened. -/
structure Host (m : Type → Type) where
  read : String → m (Except ReadFault (List UInt8))
  stdin : m (List UInt8)
  write : String → List Char → m Bool

variable {m : Type → Type} [Monad m]

/-- The table of a run, with the note on a loaded file. -/
def readTable (host : Host m) : Option String → m (Except TableFault (Table × List Note))
  | none => pure (.ok (Table.ruby, []))
  | some path => do
    let content ← host.read path
    return (Table.ofFile path content).map fun t => (t, [.loaded t.length path])

/-- The bytes of the document. -/
def readInput (host : Host m) : Option String → m (Except Failure (List UInt8))
  | none => do return .ok (← host.stdin)
  | some path =>
    if path == "-" then do return .ok (← host.stdin)
    else if path.toList.contains '\x00' then pure (.error .nullInPath)
    else do
      match ← host.read path with
      | .ok bytes => return .ok bytes
      | .error _ => return .error (.cannotOpen path)

/-- The document in bytes. -/
def document (bytes : List UInt8) : Except Failure Json :=
  match Text.decodeUtf8 bytes with
  | .error _ => .error .notUtf8
  | .ok cs =>
    if Text.isBlankText cs then .error .noInput
    else
      match Json.parse cs with
      | .error e => .error (.notJson (e.message cs))
      | .ok (.obj members) => .ok (.obj members)
      | .ok _ => .error .notObject

/-- The text of a document before corrections. -/
def rawText (bytes : List UInt8) : Except Failure (List Char) := do
  let d ← document bytes
  match Value.ofDocument d >>= Value.generate .ruby with
  | .ok text => .ok text
  | .error fault => .error (.tree fault)

/-- The text that a run writes, and the notes on its corrections. -/
def finalText (phase : Phase) (table : Table) (raw : List Char) : List Char × List Note :=
  match phase with
  | .emit => (raw, [])
  | .correct => (correct table raw, correctionNotes table raw)

/-- Writes the text to its destination. -/
def deliver (host : Host m) (notes : List Note) (text : List Char) : Option String → m Outcome
  | none => pure { stdout := text, notes }
  | some path =>
    if path.toList.contains '\x00' then pure { failure := some .nullInPath, notes }
    else do
      if ← host.write path text then return { notes }
      else return { failure := some (.cannotWrite path), notes }

/-- A run with options. -/
def runOptions (host : Host m) (o : Options) : m Outcome := do
  let shown (notes : List Note) : List Note := if o.verbose then notes else []
  match ← readTable host o.tableFile with
  | .error fault => return { failure := some (.table fault) }
  | .ok (table, loaded) =>
    match (← readInput host o.input) >>= rawText with
    | .error failure => return { failure := some failure, notes := shown loaded }
    | .ok raw =>
      let (text, notes) := finalText o.phase table raw
      deliver host (shown (loaded ++ notes)) text o.output

/-- A run with arguments. -/
def run (host : Host m) (arguments : List String) : m Outcome :=
  match Command.ofArguments arguments with
  | .help => pure { stdout := usage.toList }
  | .refused fault => pure { failure := some (.usage fault) }
  | .run options => runOptions host options

end CommandLine

end EstreeEmitter
