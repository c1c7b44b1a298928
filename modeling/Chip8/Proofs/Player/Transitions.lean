import Chip8.Proofs.Player.Mirror

/-!
# Transitions of the run state

From which run state a command, an instruction cycle or a timer tick leads to which. Only an
accepted start leads out of the idle state, and nothing but a stop leads out of a halted one.
-/

namespace Chip8.Player

@[simp] theorem state_stop (player : Player) : player.stop.state = .idle := by
  obtain ⟨settings, phase, channels⟩ := player
  cases phase <;> rfl

@[simp] theorem state_withKeys (player : Player) (change : Machine → Machine) :
    (player.withKeys change).state = player.state := by
  obtain ⟨settings, phase, channels⟩ := player
  cases phase <;> rfl

/-- A stored state that is loaded does not change the run state. -/
theorem state_load {player loaded : Player} {stored : SaveState}
    (accepted : player.load stored = .ok loaded) : loaded.state = player.state := by
  obtain ⟨settings, phase, channels⟩ := player
  cases phase <;> simp only [load] at accepted
  case idle | halted => cases accepted
  case running run | paused run =>
    split at accepted <;> cases accepted
    rfl

/-- A start is accepted exactly while there is no run. -/
theorem start_eq_ok_iff {player : Player} {program : Program} {fresh : UInt64} :
    (∃ started, player.start program fresh = .ok started) ↔ player.state = .idle := by
  obtain ⟨settings, phase, channels⟩ := player
  cases phase <;> simp [start, state, Phase.state]

theorem state_start {player started : Player} {program : Program} {fresh : UInt64}
    (accepted : player.start program fresh = .ok started) :
    player.state = .idle ∧ started.state = .running := by
  refine ⟨start_eq_ok_iff.mp ⟨started, accepted⟩, ?_⟩
  obtain ⟨settings, phase, channels⟩ := player
  cases phase <;> cases accepted
  rfl

/-- The play button pauses a run or lets it go on. -/
theorem state_togglePause {player toggled : Player} (accepted : player.togglePause = .ok toggled) :
    player.state = .running ∧ toggled.state = .paused ∨
      player.state = .paused ∧ toggled.state = .running := by
  obtain ⟨settings, phase, channels⟩ := player
  cases phase <;> cases accepted
  · exact .inl ⟨rfl, rfl⟩
  · exact .inr ⟨rfl, rfl⟩

/-- What a command can do to the run state. -/
theorem state_handle (player : Player) (command : Command) :
    (player.handle command).2.state = player.state ∨
      (player.handle command).2.state = .idle ∨
      player.state = .running ∧ (player.handle command).2.state = .paused ∨
      player.state = .paused ∧ (player.handle command).2.state = .running ∨
      player.state = .idle ∧ (player.handle command).2.state = .running ∧
        ∃ program fresh, command = .start program fresh ∧ (player.handle command).1 = .done := by
  cases command with
  | start program fresh =>
      simp only [handle]
      split
      · rename_i started accepted
        obtain ⟨idle, running⟩ := state_start accepted
        exact .inr (.inr (.inr (.inr ⟨idle, running, program, fresh, rfl, rfl⟩)))
      · exact .inl rfl
  | togglePause =>
      simp only [handle]
      split
      · rename_i toggled accepted
        obtain paused | resumed := state_togglePause accepted
        · exact .inr (.inr (.inl paused))
        · exact .inr (.inr (.inr (.inl resumed)))
      · exact .inl rfl
  | load stored =>
      simp only [handle]
      split
      · rename_i loaded accepted
        exact .inl (state_load accepted)
      · exact .inl rfl
  | save => exact .inl (by simp only [handle]; split <;> rfl)
  | stop | shutDown => exact .inr (.inl (state_stop player))
  | press key | release key => exact .inl (state_withKeys player _)
  | askState => exact .inl rfl

/-- An accepted start leads from the idle to the running state. -/
theorem state_of_started {player : Player} {program : Program} {fresh : UInt64}
    (accepted : (player.handle (.start program fresh)).1 = .done) :
    player.state = .idle ∧ (player.handle (.start program fresh)).2.state = .running := by
  simp only [handle] at accepted ⊢
  split
  · rename_i started startedEq
    exact state_start startedEq
  · rename_i refusal refusalEq
    rw [refusalEq] at accepted
    cases accepted

/-- A player says goodbye when it has stopped for good. -/
theorem state_of_goodbye {player : Player} {command : Command}
    (goodbye : (player.handle command).1 = .goodbye) : (player.handle command).2.state = .idle := by
  cases command <;> simp only [handle] at goodbye ⊢
  case shutDown => exact state_stop player
  case start | togglePause | save | load => split at goodbye <;> cases goodbye
  all_goals cases goodbye

/-- Nothing but a shutdown makes a player say goodbye. -/
theorem eq_shutDown_of_goodbye {player : Player} {command : Command}
    (goodbye : (player.handle command).1 = .goodbye) : command = .shutDown := by
  cases command <;> simp only [handle] at goodbye
  case shutDown => rfl
  case start | togglePause | save | load => split at goodbye <;> cases goodbye
  all_goals cases goodbye

/-- A timer tick does not change the run state. -/
@[simp] theorem state_tick (player : Player) : player.tick.state = player.state := by
  obtain ⟨settings, phase, channels⟩ := player
  cases phase <;> rfl

/-- What an instruction cycle can do. It leaves the player alone, unless its run is running and does
not wait for a key; then it halts the run, or an instruction moves the machine on. -/
theorem cycle_cases (player : Player) :
    player.cycle = player ∨
      ∃ settings program machine channels,
        player = ⟨settings, .running ⟨program, machine⟩, channels⟩ ∧
          ((∃ fault, machine.step = (.faulted fault, machine) ∧
              player.cycle = ⟨settings, .halted ⟨program, machine⟩ fault,
                (channels.publishPlaying (.halted fault)).publishInspection machine
                  (.halted fault)⟩) ∨
            ∃ instruction, machine.step = (.executed instruction, machine.perform instruction) ∧
              player.cycle =
                ⟨settings, .running ⟨program, (machine.perform instruction).acknowledgeScreen⟩,
                  publishExecuted channels machine.timers.sound (machine.perform instruction)
                    instruction⟩) := by
  obtain ⟨settings, phase, channels⟩ := player
  cases phase with
  | idle | paused | halted => exact .inl rfl
  | running run =>
      rcases run.machine.step_cases with ⟨_, step⟩ | ⟨fault, _, step⟩ | ⟨instruction, _, _, _, step⟩
      · exact .inl (cycle_of_waiting step)
      · exact .inr ⟨_, _, _, _, rfl, .inl ⟨fault, step, cycle_of_faulted step⟩⟩
      · exact .inr ⟨_, _, _, _, rfl, .inr ⟨instruction, step, cycle_of_executed step⟩⟩

/-! ## Settings -/

theorem settings_handle (player : Player) (command : Command) :
    (player.handle command).2.settings = player.settings := by
  obtain ⟨settings, phase, channels⟩ := player
  cases command with
  | start | stop | togglePause | press | release | save | askState | shutDown =>
      cases phase <;> rfl
  | load stored =>
      cases phase with
      | idle | halted => rfl
      | running run | paused run =>
          simp only [handle, load]
          by_cases fits : run.program.digest = stored.digest
          · simp only [if_pos fits]
          · simp only [if_neg fits]

theorem settings_cycle (player : Player) : player.cycle.settings = player.settings := by
  rcases player.cycle_cases with same | ⟨_, _, _, _, rfl, ⟨_, _, halts⟩ | ⟨_, _, moves⟩⟩
  · rw [same]
  · rw [halts]
  · rw [moves]

theorem settings_tick (player : Player) : player.tick.settings = player.settings := by
  obtain ⟨settings, phase, channels⟩ := player
  cases phase <;> rfl

/-- Nothing that happens to a player changes its settings. -/
theorem settings_after (player : Player) (event : Event) :
    (player.after event).settings = player.settings := by
  cases event with
  | command command => exact player.settings_handle command
  | cycle => exact player.settings_cycle
  | tick => exact player.settings_tick

theorem settings_afterAll (player : Player) (events : List Event) :
    (player.afterAll events).settings = player.settings := by
  induction events generalizing player with
  | nil => rfl
  | cons event rest ih => exact (ih (player.after event)).trans (player.settings_after event)

end Chip8.Player
