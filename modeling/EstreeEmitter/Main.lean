import EstreeEmitter.CommandLine

set_option autoImplicit false

/-! # The program

Connects the command line to files and standard streams. -/

namespace EstreeEmitter.CommandLine

/-- A fault of the operating system. -/
def osFault : IO.Error → ReadFault
  | .noFileOrDirectory _ code reason | .interrupted _ code reason
  | .alreadyExists _ code reason | .invalidArgument _ code reason
  | .permissionDenied _ code reason | .resourceExhausted _ code reason
  | .inappropriateType _ code reason | .noSuchThing _ code reason
  | .otherError code reason | .resourceBusy code reason | .resourceVanished code reason
  | .unsupportedOperation code reason | .hardwareFault code reason
  | .unsatisfiedConstraints code reason | .illegalOperation code reason
  | .protocolError code reason | .timeExpired code reason => ⟨code.toNat, reason⟩
  | .unexpectedEof => ⟨0, "end of file"⟩
  | .userError reason => ⟨0, reason⟩

/-- All bytes of a stream. -/
partial def readStream (stream : IO.FS.Stream) (bytes : ByteArray) : IO ByteArray := do
  let more ← stream.read 65536
  if more.isEmpty then return bytes else readStream stream (bytes ++ more)

/-- The files and standard streams of the process. -/
def processHost : Host IO where
  read path := do
    try return .ok (← (← IO.FS.Handle.mk path .read).readBinToEnd).toList
    catch e => return .error (osFault e)
  stdin := do return (← readStream (← IO.getStdin) .empty).toList
  write path text := do
    try
      IO.FS.writeFile path (String.ofList text)
      return true
    catch _ => return false

end EstreeEmitter.CommandLine

open EstreeEmitter EstreeEmitter.CommandLine in
/-- Runs the command line; a failure without a report ends with exit code 1. -/
def main (arguments : List String) : IO UInt32 := do
  let outcome ← run processHost arguments
  (← IO.getStderr).putStr outcome.stderr
  (← IO.getStdout).putStr (String.ofList outcome.stdout)
  return ((outcome.code?).getD 1).toUInt32
