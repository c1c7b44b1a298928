import Chip8.CommandLine.Transcript

/-!
# The command line program

Reads the file that the options name, lets the run take as long as it is meant to take, and writes
the transcript.
-/

namespace Chip8.CommandLine

/-- The bytes of a file, or why there are none. -/
def readImage (path : String) : IO (Except ReadProblem (List UInt8)) := do
  try
    let bytes ← IO.FS.readBinFile path
    return .ok bytes.toList
  catch problem =>
    return .error <| match problem with
      | .noFileOrDirectory .. => .notFound
      | .permissionDenied .. => .permissionDenied
      | .inappropriateType _ code _ =>
          if code.toNat = ReadProblem.isDirectory.code then .isDirectory else .notDirectory
      | .invalidArgument .. => .nameTooLong
      | other => ⟨0, "Other", toString other⟩

/-- Write a transcript, and give its exit code. -/
def writeTranscript (transcript : Transcript) : IO UInt32 := do
  let output ← IO.getStdout
  for line in transcript.output do
    output.putStr (line ++ "\n")
  output.flush
  (← IO.getStderr).putStr transcript.problems
  return UInt32.ofNat transcript.exitCode

/-- Wait until a run that began at some time is over. The picture is already known. -/
def waitForEnd (plan : Plan) (begun : Nat) (lines : Nat) : IO Unit := do
  let now ← IO.monoNanosNow
  let left := if lines = 0 then 0 else plan.totalTime - (now - begun)
  IO.sleep (UInt32.ofNat (min (left / 1000000) (UInt32.size - 1)))

/-- Make a run, and give its transcript when its time is over. -/
def playOut (plan : Plan) : IO Transcript := do
  let begun ← IO.monoNanosNow
  let fresh ← IO.rand 0 (UInt64.size - 1)
  let transcript := plan.transcript (UInt64.ofNat fresh)
  waitForEnd plan begun transcript.output.length
  return transcript

/-- Run the program that the arguments name. -/
def runArguments (arguments : List String) : IO UInt32 := do
  match Options.ofArguments arguments with
  | .error detour => writeTranscript detour.transcript
  | .ok options =>
      match Plan.make options (← readImage options.file) with
      | .error details => writeTranscript (failureTranscript details)
      | .ok plan => writeTranscript (← playOut plan)

end Chip8.CommandLine

/-- The entry point. -/
def main (arguments : List String) : IO UInt32 :=
  Chip8.CommandLine.runArguments arguments
