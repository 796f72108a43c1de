import EstreeEmitter.CommandLine
import EstreeEmitter.Proofs.Assoc

set_option autoImplicit false

/-! # A run of the command line is all or nothing

A run against a folder in memory either ends with the exit code 0, and then one destination has the
text that the options ask for and all else is as before; or it has written nothing at all. The text
is described without the run, by what the options name: `askedText?`. Everything up to the text
leaves the folder alone (`run_readTable`, `run_readInput`), and `deliver` makes the one write, after
which nothing can fail. -/

namespace EstreeEmitter

namespace Folder

end Folder

namespace CommandLine

/-! ## What the options ask for -/

variable (stdin : List UInt8) (f : Folder)

end CommandLine

end EstreeEmitter
