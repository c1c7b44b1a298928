import Chip8.Digest
import Chip8.Fault
import Chip8.Text.Quoted

/-!
# Refusals

Why a program is not accepted or a command is not carried out. Each cause is a constructor; the
wording is in `Refusal.message`.
-/

namespace Chip8

/-- Why something asked for is not done. -/
inductive Refusal where
  /-- The program has no bytes. -/
  | emptyProgram (name : String)
  /-- The program has more bytes than fit. -/
  | programTooLarge (name : String) (size limit : Nat)
  /-- There is no run. -/
  | notStarted
  /-- There is a run already. -/
  | alreadyStarted
  /-- The run was stopped by a fault. -/
  | halted (fault : Fault)
  /-- A stored state belongs to another program than the one that runs. -/
  | foreignState (expected found : Digest)
  deriving DecidableEq, Repr

namespace Refusal

/-- The sentence that reports a refusal. -/
def message : Refusal → String
  | emptyProgram name => "program " ++ Text.quoted name ++ " is empty"
  | programTooLarge name size limit =>
      "program " ++ Text.quoted name ++ " is " ++ toString size ++ " bytes, but at most " ++
        toString limit ++ " bytes fit in memory"
  | notStarted => "no program has been started"
  | alreadyStarted => "a program is already running, stop it first"
  | halted fault => "the run has halted: " ++ fault.message
  | foreignState expected found =>
      "snapshot was taken from program " ++ found.text ++ ", but " ++ expected.text ++
        " is running"

end Refusal

end Chip8
