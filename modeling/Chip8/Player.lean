import Chip8.Machine.Execution
import Chip8.Player.Channels
import Chip8.SaveState
import Chip8.Settings

/-!
# Players

A player owns at most one run. Commands start, stop, pause, store and replace it and pass on keys;
instruction cycles and timer ticks move it on while it is running. Whatever somebody outside could
notice is published at once. A refused command has no effect at all: the refusing functions return
no player.
-/

namespace Chip8

/-- A program and the machine that runs it. -/
structure Run where
  program : Program
  machine : Machine

/-- The run state together with the run that it speaks of. -/
inductive Phase where
  | idle
  | running (run : Run)
  | paused (run : Run)
  | halted (run : Run) (fault : Fault)

namespace Phase

/-- The run state of a phase. -/
def state : Phase → RunState
  | idle => .idle
  | running _ => .running
  | paused _ => .paused
  | halted _ fault => .halted fault

/-- The run of a phase, if there is one. -/
def run? : Phase → Option Run
  | idle => none
  | running run => some run
  | paused run => some run
  | halted run _ => some run

end Phase

/-- A run, if there is one, and what is known about it outside. -/
structure Player where
  settings : Settings
  phase : Phase
  channels : Channels

namespace Player

/-- A player that has not played anything yet. -/
def ofSettings (settings : Settings) : Player := ⟨settings, .idle, .silent⟩

/-- The run state. -/
def state (player : Player) : RunState := player.phase.state

/-- The machine of the run, if there is one. -/
def machine? (player : Player) : Option Machine := player.phase.run?.map (·.machine)

/-- Start a run of a program. The fresh seed is used if the settings fix none. -/
def start (player : Player) (program : Program) (fresh : UInt64) : Except Refusal Player :=
  match player.phase with
  | .idle =>
      let machine := (Machine.boot program.image (player.settings.seedFor fresh)).acknowledgeScreen
      .ok { player with
        phase := .running ⟨program, machine⟩
        channels := player.channels.publishAll machine .running }
  | _ => .error .alreadyStarted

/-- End the run, if there is one. -/
def stop (player : Player) : Player :=
  match player.phase with
  | .idle => player
  | _ => { player with phase := .idle, channels := player.channels.publishEnd }

/-- Pause a running run or resume a paused one. -/
def togglePause (player : Player) : Except Refusal Player :=
  match player.phase with
  | .idle => .error .notStarted
  | .running run =>
      .ok { player with
        phase := .paused run, channels := player.channels.publishPlaying .paused }
  | .paused run =>
      .ok { player with
        phase := .running run, channels := player.channels.publishPlaying .running }
  | .halted _ fault => .error (.halted fault)

/-- Let something happen to the keys of a run that is running or paused. -/
def withKeys (player : Player) (change : Machine → Machine) : Player :=
  match player with
  | ⟨settings, .running ⟨program, machine⟩, channels⟩ =>
      let machine := change machine
      ⟨settings, .running ⟨program, machine⟩, channels.publishInspection machine .running⟩
  | ⟨settings, .paused ⟨program, machine⟩, channels⟩ =>
      let machine := change machine
      ⟨settings, .paused ⟨program, machine⟩, channels.publishInspection machine .paused⟩
  | other => other

/-- Hold a key. -/
def press (player : Player) (key : Key) : Player :=
  player.withKeys (·.press key)

/-- Let a key go. -/
def release (player : Player) (key : Key) : Player :=
  player.withKeys (·.release key)

/-- Copy the state of the run. -/
def save (player : Player) : Except Refusal SaveState :=
  match player.phase.run? with
  | some run => .ok ⟨run.program.digest, run.machine⟩
  | none => .error .notStarted

/-- Put a stored state in the place of the machine, if it belongs to the program that runs. -/
def load (player : Player) (stored : SaveState) : Except Refusal Player :=
  match player.phase with
  | .halted _ fault => .error (.halted fault)
  | .idle => .error .notStarted
  | .running run =>
      if run.program.digest = stored.digest then
        let machine := (run.machine.restore stored.machine).acknowledgeScreen
        .ok { player with
          phase := .running { run with machine }
          channels := player.channels.publishAll machine .running }
      else .error (.foreignState run.program.digest stored.digest)
  | .paused run =>
      if run.program.digest = stored.digest then
        let machine := (run.machine.restore stored.machine).acknowledgeScreen
        .ok { player with
          phase := .paused { run with machine }
          channels := player.channels.publishAll machine .paused }
      else .error (.foreignState run.program.digest stored.digest)

/-- Publish the sound timer if it is not what it was. -/
def publishSoundChange (channels : Channels) (before : UInt8) (machine : Machine) : Channels :=
  if machine.timers.sound = before then channels else channels.publishSound machine

/-- Publish what somebody could notice of an executed instruction. -/
def publishExecuted (channels : Channels) (before : UInt8) (machine : Machine)
    (instruction : Instruction) : Channels :=
  let channels := if machine.screenChanged then channels.publishFrame machine else channels
  let channels := publishSoundChange channels before machine
  if instruction.consultsKeys then channels.publishInspection machine .running else channels

/-- One instruction cycle of a run that is running. A fault halts the run. -/
def cycle (player : Player) : Player :=
  match player with
  | ⟨settings, .running ⟨program, machine⟩, channels⟩ =>
      let before := machine.timers.sound
      match machine.step with
      | (.executed instruction, machine) =>
          let channels := publishExecuted channels before machine instruction
          ⟨settings, .running ⟨program, machine.acknowledgeScreen⟩, channels⟩
      | (.waiting, machine) => ⟨settings, .running ⟨program, machine⟩, channels⟩
      | (.faulted fault, machine) =>
          let channels := channels.publishPlaying (.halted fault)
          ⟨settings, .halted ⟨program, machine⟩ fault,
            channels.publishInspection machine (.halted fault)⟩
  | other => other

/-- One timer tick of a run that is running. -/
def tick (player : Player) : Player :=
  match player with
  | ⟨settings, .running ⟨program, machine⟩, channels⟩ =>
      let before := machine.timers.sound
      let machine := machine.tick
      ⟨settings, .running ⟨program, machine⟩, publishSoundChange channels before machine⟩
  | other => other

end Player

end Chip8
