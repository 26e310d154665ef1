import PatternDraw.CommandLine.Outcome

/-!
# The program

Reads arguments and environment, asks the system for a seed where none is given, and writes
what the run leaves behind.
-/

namespace PatternDraw

/-- The number that bytes spell, the first byte counting most. -/
def seedOfBytes (bytes : ByteArray) : UInt64 :=
  bytes.toList.foldl (fun seed byte => (seed <<< 8) ||| byte.toUInt64) 0

end PatternDraw

/-- Run the program on its arguments. -/
def main (arguments : List String) : IO UInt32 := do
  let environment ← PatternDraw.CommandLine.Environment.ofLookup fun name => IO.getEnv name
  let seed ← IO.getRandomBytes 8
  let spare := PatternDraw.ChaCha.ofSeed (PatternDraw.seedOfBytes seed)
  let outcome := PatternDraw.CommandLine.run arguments environment spare
  let errors ← IO.getStderr
  errors.putStr outcome.errors
  let output ← IO.getStdout
  output.write outcome.output
  output.flush
  return outcome.code.toUInt32
