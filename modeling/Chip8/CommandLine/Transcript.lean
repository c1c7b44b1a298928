import Chip8.CommandLine.Folder
import Chip8.CommandLine.KeyList
import Chip8.CommandLine.Options
import Chip8.CommandLine.Seconds
import Chip8.Timeline

/-!
# Transcripts

What the command line program writes and how it exits: the final picture of a run without a window,
preceded by nothing and followed on the error output by the fault that halted the run, if one did.
Problems are looked for in a fixed order: the file, the keys, the seconds, the program.
-/

namespace Chip8.CommandLine

/-- All that somebody who runs the program gets to see. -/
structure Transcript where
  exitCode : Nat
  /-- The lines on the standard output. -/
  output : List String
  /-- The text on the error output. -/
  problems : String
  deriving DecidableEq, Repr

/-- A fault with its details. -/
def faultDetails : Fault → String
  | .invalidOpcode opcode address =>
      "InvalidOpcode \x7b opcode: " ++ toString opcode.toNat ++ ", address: " ++
        toString address.toNat ++ " \x7d"
  | .memoryOutOfBounds address =>
      "MemoryOutOfBounds \x7b address: " ++ toString address ++ " \x7d"
  | .stackOverflow address =>
      "StackOverflow \x7b address: " ++ toString address.toNat ++ " \x7d"
  | .stackUnderflow address =>
      "StackUnderflow \x7b address: " ++ toString address.toNat ++ " \x7d"

/-- A refusal with its details. -/
def refusalDetails : Refusal → String
  | .emptyProgram name => "EmptyProgram \x7b name: " ++ Text.quoted name ++ " \x7d"
  | .programTooLarge name size limit =>
      "ProgramTooLarge \x7b name: " ++ Text.quoted name ++ ", len: " ++ toString size ++
        ", max: " ++ toString limit ++ " \x7d"
  | .notStarted => "NotStarted"
  | .alreadyStarted => "AlreadyStarted"
  | .halted fault => "Halted(" ++ faultDetails fault ++ ")"
  | .foreignState expected found =>
      "StateHashMismatch \x7b expected: " ++ expected.description ++ ", found: " ++
        found.description ++ " \x7d"

/-- A run without a window. -/
structure Plan where
  program : Program
  settings : Settings
  keys : List Key
  /-- For how many nanoseconds the run goes on behind the last key. -/
  duration : Nat

namespace Plan

/-- For how long each key is held: a twentieth of a second. -/
def holdTime : Nat := 50000000

/-- How far a run gets before the first key: a tenth of a millisecond. -/
def leadTime : Nat := 100000

/-- The plan that options and the contents of their file give, or the details of what is wrong. -/
def make (options : Options) (contents : Except ReadProblem (List UInt8)) :
    Except String Plan := do
  let image ← contents.mapError ReadProblem.details
  let keys ← (keyList options.keys.toList).mapError fun field => Text.quoted (noKeyMessage field)
  let duration ← match nanoseconds? options.seconds with
    | some duration => pure duration
    | none => throw (Text.quoted (unusableSecondsMessage options.seconds))
  let program ← (Program.load (fileName options.file) image).mapError refusalDetails
  return ⟨program, options.settings, keys, duration⟩

/-- The time that a run takes from its start to its end. -/
def totalTime (plan : Plan) : Nat :=
  leadTime + plan.keys.length * holdTime + plan.duration

/-- Press a key, hold it, and let it go. -/
def stroke (timeline : Timeline) (key : Key) : Timeline :=
  let pressed := (timeline.handle (.press key)).2
  ((pressed.advance holdTime).handle (.release key)).2

/-- The end of the run, with every beat on time. The fresh seed is used if none is fixed. -/
def finish (plan : Plan) (fresh : UInt64) : Timeline :=
  let started := ((Timeline.start plan.settings).handle (.start plan.program fresh)).2
  (plan.keys.foldl stroke (started.advance leadTime)).advance plan.duration

/-- The final picture, and the fault if the run was halted. -/
def transcript (plan : Plan) (fresh : UInt64) : Transcript :=
  let player := (plan.finish fresh).pacer.player
  let problems := match player.state with
    | .halted fault => "Halted: " ++ fault.message ++ "\n"
    | _ => ""
  ⟨0, player.channels.frame.value.lines, problems⟩

end Plan

/-- The name of the program and its version. -/
def versionLine : String := "chip-8-vm 0.1.0"

/-- How the program is used. -/
def usageLines : List String := [
  versionLine,
  "Run a CHIP-8 program without a frontend and print its final screen",
  "",
  "USAGE:",
  "    chip-8-vm [OPTIONS] <input>",
  "",
  "FLAGS:",
  "    -h, --help       Prints help information",
  "    -V, --version    Prints version information",
  "",
  "OPTIONS:",
  "        --ips <ips>            Instructions executed per second [default: 700]",
  "        --keys <keys>          Comma-separated hex keys to press and release once at start",
  "        --seconds <seconds>    How long to run, in seconds [default: 3]",
  "        --seed <seed>          Seed for the random number instruction",
  "",
  "ARGS:",
  "    <input>    The program to execute"]

/-- Why arguments are refused. -/
def Detour.message : Detour → String
  | .unknownArgument => "an argument was not expected"
  | .repeatedOption => "an option was given more than once"
  | .missingValue => "an option requires a value but none was supplied"
  | .missingFile => "no program was named"
  | .invalidValue => "the value of an option is not valid"
  | .help => ""
  | .version => ""

/-- The transcript of arguments that do not ask for a run. -/
def Detour.transcript : Detour → Transcript
  | .help => ⟨0, usageLines, ""⟩
  | .version => ⟨0, [versionLine], ""⟩
  | refused => ⟨1, [], "error: " ++ refused.message ++ "\n"⟩

/-- The transcript of a run that cannot be made. -/
def failureTranscript (details : String) : Transcript :=
  ⟨1, [], "Error: " ++ details ++ "\n"⟩

/-- What is seen by somebody who runs the program in a folder. The fresh seed is used if none is
fixed. -/
def Folder.run (folder : Folder) (arguments : List String) (fresh : UInt64) : Transcript :=
  match Options.ofArguments arguments with
  | .error detour => detour.transcript
  | .ok options =>
      match Plan.make options (folder.read options.file) with
      | .error details => failureTranscript details
      | .ok plan => plan.transcript fresh

end Chip8.CommandLine
