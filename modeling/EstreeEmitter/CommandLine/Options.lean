set_option autoImplicit false

/-! # Command line options -/

namespace EstreeEmitter

namespace CommandLine

/-- The last step of the work that is done. -/
inductive Phase where
  | emit
  | correct
  deriving DecidableEq, Repr

/-- What the command line asks for. -/
structure Options where
  input : Option String := none
  output : Option String := none
  tableFile : Option String := none
  phase : Phase := .correct
  verbose : Bool := false
  deriving DecidableEq, Repr

/-- Why arguments are refused. -/
inductive UsageFault where
  | missingArgument (flag : String)
  | unknownPhase (name : String)
  | unknownFlag (flag : String)
  | unexpected (argument : String)
  deriving DecidableEq, Repr

/-- A refusal in words. -/
def UsageFault.message : UsageFault → String
  | .missingArgument flag => s!"{flag} requires an argument"
  | .unknownPhase name => s!"unknown phase '{name}'"
  | .unknownFlag flag => s!"unknown flag '{flag}'"
  | .unexpected argument => s!"unexpected argument '{argument}'"

/-- What arguments amount to. -/
inductive Command where
  | help
  | refused (fault : UsageFault)
  | run (options : Options)
  deriving DecidableEq, Repr

/-- The help text. -/
def usage : String := String.join [
  "jsrb [OPTIONS] [INPUT] [-o OUTPUT]\n",
  "\n",
  "Translate a JavaScript AST (ESTree JSON, e.g. from @babel/parser or acorn)\n",
  "into Ruby. Reads INPUT, or stdin when INPUT is omitted.\n",
  "\n",
  "Options:\n",
  "  --corrections FILE  Use the correction table in FILE (JSON object)\n",
  "  --stop-at PHASE     Stop after phase: emit, correct\n",
  "  -o, --output FILE   Write output to FILE instead of stdout\n",
  "  -v, --verbose       Log each correction pass to stderr\n",
  "  -h, --help          Show this help message\n"]

/-- The phase of a name. -/
def Phase.ofName? (name : String) : Option Phase :=
  if name == "emit" then some .emit else if name == "correct" then some .correct else none

/-- An argument has the form of a flag; a single hyphen has not. -/
def isFlag (argument : String) : Bool :=
  match argument.toList with
  | ['-'] => false
  | '-' :: _ => true
  | _ => false

/-- A flag that takes the next argument. -/
inductive ValueFlag where
  | table
  | phase
  | output
  deriving DecidableEq, Repr

/-- The flag of a name that takes the next argument. -/
def ValueFlag.ofName? (name : String) : Option ValueFlag :=
  if name == "--corrections" then some .table
  else if name == "--stop-at" then some .phase
  else if name == "-o" || name == "--output" then some .output
  else none

/-- The options with the value of a flag. -/
def Options.put (o : Options) (value : String) : ValueFlag → Except UsageFault Options
  | .table => .ok { o with tableFile := some value }
  | .output => .ok { o with output := some value }
  | .phase =>
    match Phase.ofName? value with
    | some phase => .ok { o with phase }
    | none => .error (.unknownPhase value)

/-- Reads arguments from left to right. The first that asks for help or is refused ends it. -/
def Command.read (o : Options) : List String → Command
  | [] => .run o
  | argument :: rest =>
    if argument == "--help" || argument == "-h" then .help
    else
      match ValueFlag.ofName? argument, rest with
      | some _, [] => .refused (.missingArgument argument)
      | some flag, value :: rest' =>
        match o.put value flag with
        | .ok o' => Command.read o' rest'
        | .error fault => .refused fault
      | none, rest =>
        if argument == "--verbose" || argument == "-v" then
          Command.read { o with verbose := true } rest
        else if isFlag argument then .refused (.unknownFlag argument)
        else if o.input.isSome then .refused (.unexpected argument)
        else Command.read { o with input := some argument } rest

/-- What arguments amount to. -/
def Command.ofArguments (arguments : List String) : Command := Command.read {} arguments

end CommandLine

end EstreeEmitter
