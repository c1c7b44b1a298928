import Chip8.Broadcast
import Chip8.Machine

/-!
# What a player makes known

The run state in the words of a play button, what the program waits for, and the four broadcasts on
which a player publishes: the picture, the sound timer, the play button and the inspection.
-/

namespace Chip8

/-- Where a player is between the start and the stop of a run. -/
inductive RunState where
  | idle
  | running
  | paused
  /-- A fault ended the run. It is kept until it is stopped. -/
  | halted (fault : Fault)
  deriving DecidableEq, Repr

/-- The run state as a play button shows it. -/
structure Playing where
  /-- From a start until the next stop. -/
  hasStarted : Bool
  /-- Neither paused nor halted. -/
  isPlaying : Bool
  deriving DecidableEq, Repr

/-- The play button of a run state. -/
def RunState.playing : RunState → Playing
  | .idle => ⟨false, false⟩
  | .running => ⟨true, true⟩
  | .paused => ⟨true, false⟩
  | .halted _ => ⟨true, false⟩

/-- The fault that ended the run, if one did. -/
def RunState.fault? : RunState → Option Fault
  | .halted fault => some fault
  | _ => none

/-- What the program waits for, and why it cannot go on. -/
structure Inspection where
  required : List Key
  held : List Key
  /-- The register that receives the next key. -/
  awaiting : Option Register
  fault : Option Fault
  deriving DecidableEq, Repr

namespace Inspection

/-- The inspection of no run. -/
def blank : Inspection := ⟨[], [], none, none⟩

/-- The inspection of a machine. -/
def ofMachine (machine : Machine) (fault : Option Fault) : Inspection :=
  ⟨machine.requiredKeys, machine.keypad.held.toList, machine.keypad.awaiting, fault⟩

end Inspection

/-- The broadcasts of a player. -/
structure Channels where
  frame : Broadcast Screen
  sound : Broadcast UInt8
  playing : Broadcast Playing
  inspection : Broadcast Inspection
  deriving DecidableEq

namespace Channels

/-- Nothing published yet, and no run to show. -/
def silent : Channels where
  frame := .ofInitial .blank
  sound := .ofInitial 0
  playing := .ofInitial RunState.idle.playing
  inspection := .ofInitial .blank

/-- Publish the picture of a machine. -/
def publishFrame (channels : Channels) (machine : Machine) : Channels :=
  { channels with frame := channels.frame.publish machine.screen }

/-- Publish the sound timer of a machine. -/
def publishSound (channels : Channels) (machine : Machine) : Channels :=
  { channels with sound := channels.sound.publish machine.timers.sound }

/-- Publish the play button of a run state. -/
def publishPlaying (channels : Channels) (state : RunState) : Channels :=
  { channels with playing := channels.playing.publish state.playing }

/-- Publish the inspection of a machine in a run state. -/
def publishInspection (channels : Channels) (machine : Machine) (state : RunState) : Channels :=
  { channels with
    inspection := channels.inspection.publish (.ofMachine machine state.fault?) }

/-- Publish all there is to know about a machine in a run state. -/
def publishAll (channels : Channels) (machine : Machine) (state : RunState) : Channels :=
  (((channels.publishFrame machine).publishSound machine).publishPlaying state).publishInspection
    machine state

/-- Publish that there is no run any more. -/
def publishEnd (channels : Channels) : Channels where
  frame := channels.frame.publish .blank
  sound := channels.sound.publish 0
  playing := channels.playing.publish RunState.idle.playing
  inspection := channels.inspection.publish .blank

end Channels

end Chip8
