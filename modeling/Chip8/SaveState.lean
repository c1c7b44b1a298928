import Chip8.Machine
import Chip8.Program

/-!
# Stored states

A copy of a machine together with the digest of the program that brought it there.
-/

namespace Chip8

/-- A machine as it was at some time. -/
structure SaveState where
  digest : Digest
  machine : Machine
  deriving DecidableEq

/-- Whether two stored states belong to the same program and agree in the machine. -/
def SaveState.agrees (left right : SaveState) : Bool :=
  left.digest == right.digest && left.machine.agrees right.machine

end Chip8
