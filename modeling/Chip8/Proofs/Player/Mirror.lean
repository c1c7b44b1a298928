import Chip8.Player.History
import Chip8.Proofs.Machine.Effects

/-!
# The broadcasts mirror the player

A player publishes piecemeal: each command and each kind of instruction decides which of the four
broadcasts have something new to tell. `Channels.Show` says that the latest values are those of a
machine in a run state; for each operation a lemma shows that what it leaves unpublished has not
changed. `Reachable.mirrors` says that no broadcast is ever stale between two operations.
-/

namespace Chip8

/-- The latest published values are those of a machine in a run state. -/
structure Channels.Show (channels : Channels) (machine : Machine) (state : RunState) : Prop where
  frame : channels.frame.value = machine.screen
  sound : channels.sound.value = machine.timers.sound
  playing : channels.playing.value = state.playing
  inspection : channels.inspection.value = .ofMachine machine state.fault?

namespace Machine

/-- An instruction that does not deal with keys leaves the keypad alone. -/
theorem keypad_perform {machine : Machine} {instruction : Instruction}
    (deaf : instruction.consultsKeys = false) :
    (machine.perform instruction).keypad = machine.keypad := by
  rw [perform, keypad_effect]
  cases instruction <;> first | rfl | cases deaf

/-- An instruction that does not deal with keys tests none. -/
theorem tested_perform {machine : Machine} {instruction : Instruction}
    (deaf : instruction.consultsKeys = false) :
    (machine.perform instruction).tested = machine.tested := by
  rw [perform, tested_effect]
  cases instruction <;> first | rfl | cases deaf

/-- An instruction that does not deal with keys changes nothing that an inspection tells. -/
theorem inspection_perform {machine : Machine} {instruction : Instruction}
    (deaf : instruction.consultsKeys = false) (fault : Option Fault) :
    Inspection.ofMachine (machine.perform instruction) fault = .ofMachine machine fault := by
  simp only [Inspection.ofMachine, requiredKeys, keypad_perform deaf, tested_perform deaf]

/-- An instruction after which the screen does not count as changed has not changed it. -/
theorem screen_perform {machine : Machine} {instruction : Instruction}
    (unchanged : (machine.perform instruction).screenChanged = false) :
    (machine.perform instruction).screen = machine.screen := by
  rw [perform, screenChanged_effect] at unchanged
  rw [perform, screen_effect]
  cases instruction <;> first | rfl | cases unchanged

end Machine

namespace Player

/-- A cycle that executes an instruction publishes what could be noticed of it. -/
theorem cycle_of_executed {settings : Settings} {program : Program} {machine next : Machine}
    {channels : Channels} {instruction : Instruction}
    (course : machine.step = (.executed instruction, next)) :
    cycle ⟨settings, .running ⟨program, machine⟩, channels⟩ =
      ⟨settings, .running ⟨program, next.acknowledgeScreen⟩,
        publishExecuted channels machine.timers.sound next instruction⟩ := by
  simp only [cycle, course]

/-- A cycle that meets a fault halts the run and publishes the halt. -/
theorem cycle_of_faulted {settings : Settings} {program : Program} {machine : Machine}
    {channels : Channels} {fault : Fault} (course : machine.step = (.faulted fault, machine)) :
    cycle ⟨settings, .running ⟨program, machine⟩, channels⟩ =
      ⟨settings, .halted ⟨program, machine⟩ fault,
        (channels.publishPlaying (.halted fault)).publishInspection machine (.halted fault)⟩ := by
  simp only [cycle, course]

/-- A cycle while an instruction waits for a key changes nothing. -/
theorem cycle_of_waiting {settings : Settings} {program : Program} {machine : Machine}
    {channels : Channels} (course : machine.step = (.waiting, machine)) :
    cycle ⟨settings, .running ⟨program, machine⟩, channels⟩ =
      ⟨settings, .running ⟨program, machine⟩, channels⟩ := by
  simp only [cycle, course]

/-- A change of the sound timer concerns one broadcast only. -/
theorem publishSoundChange_eq (channels : Channels) (before : UInt8) (machine : Machine) :
    publishSoundChange channels before machine =
      { channels with
        sound :=
          if machine.timers.sound = before then channels.sound
          else channels.sound.publish machine.timers.sound } := by
  simp only [publishSoundChange]
  split <;> rfl

/-- What is published of an executed instruction, broadcast by broadcast. -/
theorem publishExecuted_eq (channels : Channels) (before : UInt8) (machine : Machine)
    (instruction : Instruction) :
    publishExecuted channels before machine instruction =
      { channels with
        frame :=
          if machine.screenChanged then channels.frame.publish machine.screen else channels.frame
        sound :=
          if machine.timers.sound = before then channels.sound
          else channels.sound.publish machine.timers.sound
        inspection :=
          if instruction.consultsKeys then channels.inspection.publish (.ofMachine machine none)
          else channels.inspection } := by
  simp only [publishExecuted, publishSoundChange_eq]
  split <;> split <;> rfl

end Player

namespace Channels.Show

variable {channels : Channels} {machine : Machine} {state : RunState}

theorem publishAll (channels : Channels) (machine : Machine) (state : RunState) :
    (channels.publishAll machine state).Show machine state :=
  ⟨rfl, rfl, rfl, rfl⟩

/-- Whether the screen was taken note of is not shown. -/
theorem acknowledge (shown : channels.Show machine state) :
    channels.Show machine.acknowledgeScreen state :=
  ⟨shown.frame, shown.sound, shown.playing, shown.inspection⟩

/-- A change of the run state alone is told by the play button, as long as no fault is involved. -/
theorem publishPlaying (shown : channels.Show machine state) {next : RunState}
    (sameFault : next.fault? = state.fault?) :
    (channels.publishPlaying next).Show machine next where
  frame := shown.frame
  sound := shown.sound
  playing := rfl
  inspection := by
    rw [sameFault]
    exact shown.inspection

/-- A change of the keypad and the registers alone is told by the inspection. -/
theorem publishInspection (shown : channels.Show machine state) {changed : Machine}
    (sameScreen : changed.screen = machine.screen) (sameTimers : changed.timers = machine.timers) :
    (channels.publishInspection changed state).Show changed state where
  frame := shown.frame.trans sameScreen.symm
  sound := by
    rw [sameTimers]
    exact shown.sound
  playing := shown.playing
  inspection := rfl

/-- A halt is told by the play button and the inspection. -/
theorem publishHalt (shown : channels.Show machine state) (fault : Fault) :
    ((channels.publishPlaying (.halted fault)).publishInspection machine (.halted fault)).Show
      machine (.halted fault) :=
  ⟨shown.frame, shown.sound, rfl, rfl⟩

/-- A tick changes no more than the timers. -/
theorem tick (shown : channels.Show machine state) :
    (Player.publishSoundChange channels machine.timers.sound machine.tick).Show
      machine.tick state := by
  rw [Player.publishSoundChange_eq]
  refine ⟨shown.frame, ?_, shown.playing, shown.inspection⟩
  split
  · rename_i same
    exact shown.sound.trans same.symm
  · rfl

/-- What is published of an executed instruction covers what it has changed. -/
theorem executed (shown : channels.Show machine .running) (instruction : Instruction) :
    (Player.publishExecuted channels machine.timers.sound (machine.perform instruction)
      instruction).Show (machine.perform instruction) .running := by
  rw [Player.publishExecuted_eq]
  refine ⟨?frame, ?sound, shown.playing, ?inspection⟩ <;> dsimp only
  case frame =>
    split
    · rfl
    · rename_i unchanged
      rw [Machine.screen_perform (by simpa using unchanged)]
      exact shown.frame
  case sound =>
    split
    · rename_i same
      exact shown.sound.trans same.symm
    · rfl
  case inspection =>
    split
    · rfl
    · rename_i deaf
      rw [Machine.inspection_perform (by simpa using deaf)]
      exact shown.inspection

end Channels.Show

namespace Player

/-- The latest published values are those of the run, or those of no run if there is none. The run
has nothing on its screen that was not taken note of. -/
structure Mirrors (player : Player) : Prop where
  run_iff : player.machine?.isSome ↔ player.state ≠ .idle
  acknowledged : ∀ machine, player.machine? = some machine → machine.screenChanged = false
  playing : player.channels.playing.value = player.state.playing
  frame : player.channels.frame.value = (player.machine?.map (·.screen)).getD .blank
  sound : player.channels.sound.value = (player.machine?.map (·.timers.sound)).getD 0
  inspection : player.channels.inspection.value =
    (player.machine?.map fun machine => .ofMachine machine player.state.fault?).getD .blank

namespace Mirrors

variable {settings : Settings} {phase : Phase} {channels : Channels} {run : Run}

/-- A player that has no run mirrors it if every broadcast shows the value of no run. -/
theorem ofIdle (frame : channels.frame.value = .blank) (sound : channels.sound.value = 0)
    (playing : channels.playing.value = RunState.idle.playing)
    (inspection : channels.inspection.value = .blank) : Mirrors ⟨settings, .idle, channels⟩ where
  run_iff := by simp [machine?, state, Phase.run?, Phase.state]
  acknowledged := by
    intro machine live
    cases live
  playing := playing
  frame := frame
  sound := sound
  inspection := inspection

/-- A player that has a run mirrors it if its broadcasts show the machine of the run. -/
theorem ofShow (live : phase.run? = some run) (acknowledged : run.machine.screenChanged = false)
    (shown : channels.Show run.machine phase.state) : Mirrors ⟨settings, phase, channels⟩ := by
  have machine : machine? ⟨settings, phase, channels⟩ = some run.machine := by
    rw [machine?, live]
    rfl
  refine ⟨?_, ?_, shown.playing, ?_, ?_, ?_⟩
  · rw [machine]
    cases phase with
    | idle => cases live
    | running | paused | halted => simp [state, Phase.state]
  · intro other same
    rw [machine] at same
    cases same
    exact acknowledged
  · rw [machine]
    exact shown.frame
  · rw [machine]
    exact shown.sound
  · rw [machine]
    exact shown.inspection

/-- The broadcasts of a player that mirrors its run show the machine of the run. -/
theorem shown (mirrors : Mirrors ⟨settings, phase, channels⟩) (live : phase.run? = some run) :
    channels.Show run.machine phase.state ∧ run.machine.screenChanged = false := by
  have machine : machine? ⟨settings, phase, channels⟩ = some run.machine := by
    rw [machine?, live]
    rfl
  refine ⟨⟨?_, ?_, mirrors.playing, ?_⟩, mirrors.acknowledged run.machine machine⟩
  · rw [mirrors.frame, machine]
    rfl
  · rw [mirrors.sound, machine]
    rfl
  · rw [mirrors.inspection, machine]
    rfl

theorem ofSettings (settings : Settings) : Mirrors (.ofSettings settings) :=
  ofIdle rfl rfl rfl rfl

/-- Starting publishes everything there is to know about the new run. -/
theorem start {player started : Player} {program : Program} {fresh : UInt64}
    (accepted : player.start program fresh = .ok started) : Mirrors started := by
  simp only [Player.start] at accepted
  split at accepted
  · cases accepted
    exact ofShow rfl rfl (Channels.Show.publishAll _ _ _)
  · cases accepted

/-- Stopping publishes that there is no run any more. -/
theorem stop {player : Player} (mirrors : Mirrors player) : Mirrors player.stop := by
  simp only [Player.stop]
  split
  · exact mirrors
  · exact ofIdle rfl rfl rfl rfl

/-- Pausing and resuming change the run state only. -/
theorem togglePause {player : Player} (mirrors : Mirrors player) {toggled : Player}
    (accepted : player.togglePause = .ok toggled) : Mirrors toggled := by
  obtain ⟨settings, phase, channels⟩ := player
  cases phase with
  | idle | halted => cases accepted
  | running | paused =>
      cases accepted
      obtain ⟨shown, acknowledged⟩ := mirrors.shown rfl
      exact ofShow rfl acknowledged (shown.publishPlaying rfl)

/-- A change of keys that concerns neither the screen nor the timers is published. -/
theorem withKeys {player : Player} (mirrors : Mirrors player) {change : Machine → Machine}
    (sameScreen : ∀ machine, (change machine).screen = machine.screen)
    (sameTimers : ∀ machine, (change machine).timers = machine.timers)
    (sameNote : ∀ machine, (change machine).screenChanged = machine.screenChanged) :
    Mirrors (player.withKeys change) := by
  obtain ⟨settings, phase, channels⟩ := player
  cases phase with
  | idle | halted => exact mirrors
  | running run | paused run =>
      obtain ⟨shown, acknowledged⟩ := mirrors.shown rfl
      exact ofShow rfl ((sameNote run.machine).trans acknowledged)
        (shown.publishInspection (sameScreen run.machine) (sameTimers run.machine))

theorem press {player : Player} (mirrors : Mirrors player) (key : Key) :
    Mirrors (player.press key) := by
  apply mirrors.withKeys <;> intro machine <;> simp only [Machine.press] <;> split <;> rfl

theorem release {player : Player} (mirrors : Mirrors player) (key : Key) :
    Mirrors (player.release key) := by
  apply mirrors.withKeys <;> intro machine <;> rfl

/-- Loading publishes everything there is to know about the machine that was loaded. -/
theorem load {player loaded : Player} {stored : SaveState}
    (accepted : player.load stored = .ok loaded) : Mirrors loaded := by
  obtain ⟨settings, phase, channels⟩ := player
  cases phase with
  | idle | halted => cases accepted
  | running run | paused run =>
      simp only [Player.load] at accepted
      split at accepted
      · cases accepted
        exact ofShow rfl rfl (Channels.Show.publishAll _ _ _)
      · cases accepted

/-- A command, carried out or refused, leaves the run mirrored. -/
theorem handle {player : Player} (mirrors : Mirrors player) (command : Command) :
    Mirrors (player.handle command).2 := by
  cases command with
  | start program fresh =>
      simp only [Player.handle]
      split
      · exact start ‹_›
      · exact mirrors
  | stop | shutDown => exact mirrors.stop
  | togglePause =>
      simp only [Player.handle]
      split
      · exact mirrors.togglePause ‹_›
      · exact mirrors
  | press key => exact mirrors.press key
  | release key => exact mirrors.release key
  | save =>
      simp only [Player.handle]
      split <;> exact mirrors
  | load stored =>
      simp only [Player.handle]
      split
      · exact load ‹_›
      · exact mirrors
  | askState => exact mirrors

/-- An instruction cycle publishes what the instruction or its fault has changed. -/
theorem cycle {player : Player} (mirrors : Mirrors player) : Mirrors player.cycle := by
  obtain ⟨settings, phase, channels⟩ := player
  cases phase with
  | idle | paused | halted => exact mirrors
  | running run =>
      obtain ⟨shown, acknowledged⟩ := mirrors.shown rfl
      rcases run.machine.step_cases with
        ⟨_, course⟩ | ⟨fault, _, course⟩ | ⟨instruction, _, _, _, course⟩
      · rw [cycle_of_waiting course]
        exact mirrors
      · rw [cycle_of_faulted course]
        exact ofShow rfl acknowledged (shown.publishHalt fault)
      · rw [cycle_of_executed course]
        exact ofShow rfl rfl (shown.executed instruction).acknowledge

/-- A timer tick publishes the sound timer if it has changed it. -/
theorem tick {player : Player} (mirrors : Mirrors player) : Mirrors player.tick := by
  obtain ⟨settings, phase, channels⟩ := player
  cases phase with
  | idle | paused | halted => exact mirrors
  | running run =>
      obtain ⟨shown, acknowledged⟩ := mirrors.shown rfl
      exact ofShow rfl acknowledged shown.tick

/-- Everything that can happen to a player leaves its run mirrored. -/
theorem after {player : Player} (mirrors : Mirrors player) (event : Event) :
    Mirrors (player.after event) := by
  cases event with
  | command command => exact mirrors.handle command
  | cycle => exact mirrors.cycle
  | tick => exact mirrors.tick

end Mirrors

/-- The broadcasts of every reachable player mirror its run, and show nothing if it has none. -/
theorem Reachable.mirrors {player : Player} (reachable : Reachable player) : Mirrors player := by
  induction reachable with
  | fresh settings => exact .ofSettings settings
  | after _ _ ih => exact ih.after _
  | load _ _ _ _ ih => exact ih.after _

/-- A program that waits for a key at once: its first cycle publishes the register that waits. -/
theorem mirrors_waiting :
    let program : Program := ⟨"wait", [0xF3, 0x0A], .ofBytes [0xF3, 0x0A], by simp, by decide, rfl⟩
    let started := (ofSettings ⟨700, some 0⟩).after (.command (.start program 0))
    (started.after .cycle).channels.inspection.value.awaiting = some 3 ∧
      Mirrors (started.after .cycle) := by
  intro program started
  refine ⟨?_, (Reachable.after rfl (.after rfl (.fresh _))).mirrors⟩
  let machine := (Machine.boot [0xF3, 0x0A] 0).acknowledgeScreen
  have fetched : machine.fetch = .ok (.waitForKey 3) :=
    Machine.fetch_of_image rfl (by decide) (by decide)
  have course := Machine.step_of_fetch rfl fetched rfl
  show started.cycle.channels.inspection.value.awaiting = some 3
  rw [show started = ⟨⟨700, some 0⟩, .running ⟨program, machine⟩,
      Channels.silent.publishAll machine .running⟩ from rfl,
    cycle_of_executed course, publishExecuted_eq]
  rfl

end Player

end Chip8
