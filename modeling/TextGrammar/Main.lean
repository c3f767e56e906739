import TextGrammar.Command.Run
/-!
# The program

Runs a command on the files and the standard input of the system.
-/
namespace TextGrammar.Command

/-- The system gives its numbers with either sign. -/
private def ReadError.ofSystem : IO.Error → ReadError
  | .noFileOrDirectory .. => .notFound
  | .inappropriateType _ code _ =>
    if code = 21 ∨ code = 0 - 21 then .isDirectory else .notDirectory
  | error => .other (toString error)

private def readInput (input : Input) : IO (Except ReadError String) := do
  try
    match input with
    | .file path => return decodeText (← IO.FS.readBinFile path)
    | .stdin => return decodeText (← (← IO.getStdin).readBinToEnd)
  catch error => return .error (.ofSystem error)

private def perform {α : Type} : Reading α → IO α
  | .done result => return result
  | .read input next => do perform (next (← readInput input))

end TextGrammar.Command

def main (arguments : List String) : IO UInt32 := do
  let reading := TextGrammar.Command.run arguments (← IO.getEnv "RUST_LOG")
  let result ← TextGrammar.Command.perform reading
  IO.print result.stdout
  IO.eprint result.stderr
  return result.status
