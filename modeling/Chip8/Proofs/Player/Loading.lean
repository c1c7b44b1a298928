import Chip8.Player.History

/-!
# Saving and loading

A save copies the machine of the run and names its program. A load that is accepted puts such a
copy in the place of a machine, run state and program being as they were, and publishes all there
is to know about it.
-/

namespace Chip8

/-- A phase with another machine in its run. -/
def Phase.withMachine (phase : Phase) (machine : Machine) : Phase :=
  match phase with
  | .idle => .idle
  | .running run => .running { run with machine }
  | .paused run => .paused { run with machine }
  | .halted run fault => .halted { run with machine } fault

namespace Player

variable {player : Player} {stored : SaveState}

/-- The program of the run, if there is one. -/
def program? (player : Player) : Option Program := player.phase.run?.map (·.program)

/-- The digest of the program of the run, if there is one. -/
def digest? (player : Player) : Option Digest := player.program?.map (·.digest)

/-- A player with another machine in its run, about which everything was published. -/
def withMachine (player : Player) (machine : Machine) : Player :=
  { player with
    phase := player.phase.withMachine machine
    channels := player.channels.publishAll machine player.state }

@[simp] theorem state_withMachine (machine : Machine) :
    (player.withMachine machine).state = player.state := by
  obtain ⟨settings, phase, channels⟩ := player
  cases phase <;> rfl

@[simp] theorem program?_withMachine (machine : Machine) :
    (player.withMachine machine).program? = player.program? := by
  obtain ⟨settings, phase, channels⟩ := player
  cases phase <;> rfl

theorem machine?_withMachine (live : player.state ≠ .idle) (machine : Machine) :
    (player.withMachine machine).machine? = some machine := by
  obtain ⟨settings, phase, channels⟩ := player
  cases phase with
  | idle => exact absurd rfl live
  | running | paused | halted => rfl

/-- Its own machine is no other. -/
theorem withMachine_phase_self {machine : Machine} (live : player.machine? = some machine) :
    player.phase.withMachine machine = player.phase := by
  obtain ⟨settings, phase, channels⟩ := player
  cases phase <;> cases live <;> rfl

/-- What is saved is the digest of the program and the machine. -/
theorem save_eq_ok_iff :
    player.save = .ok stored ↔
      player.digest? = some stored.digest ∧ player.machine? = some stored.machine := by
  obtain ⟨digest, machine⟩ := stored
  rw [save, digest?, program?, machine?]
  cases player.phase.run? <;> simp

/-- A player that is not idle has a machine. -/
theorem exists_machine (live : player.state ≠ .idle) :
    ∃ machine, player.machine? = some machine := by
  obtain ⟨settings, phase, channels⟩ := player
  cases phase with
  | idle => exact absurd rfl live
  | running | paused | halted => exact ⟨_, rfl⟩

/-- A player that is not idle saves its run. -/
theorem exists_save (live : player.state ≠ .idle) : ∃ stored, player.save = .ok stored := by
  obtain ⟨settings, phase, channels⟩ := player
  cases phase with
  | idle => exact absurd rfl live
  | running | paused | halted => exact ⟨_, rfl⟩

/-- A run that is running or paused takes over whatever was saved of the same program. -/
theorem load_eq (active : player.state = .running ∨ player.state = .paused)
    (same : player.digest? = some stored.digest) :
    player.load stored = .ok (player.withMachine stored.machine.acknowledgeScreen) := by
  obtain ⟨settings, phase, channels⟩ := player
  cases phase with
  | idle | halted => rcases active with running | paused <;> contradiction
  | running run | paused run => exact if_pos (Option.some.inj same)

end Player

end Chip8
