import Chip8.Proofs.Pacer.Steps
import Chip8.Proofs.Player.Mirror
import Chip8.Proofs.Player.Stopped

/-!
# Only the right commands leave a stopped state

Whatever is done to a pacer whose player is idle, paused or halted, and at whatever times: until
the right command comes, an idle and a halted player stay exactly as they are, and of a paused one
the machine takes note of keys, one inspection is published for each key event, and nothing else
changes. `Pacer.operateAll_of_stopped` says this for all three states at once.
-/

namespace Chip8

/-- Publish values one after the other. -/
def Broadcast.publishEach {α : Type} (broadcast : Broadcast α) (values : List α) : Broadcast α :=
  values.foldl Broadcast.publish broadcast

/-- What an inspection without a fault shows behind each of some events, in order. -/
def Machine.inspections (machine : Machine) : List Machine.Event → List Inspection
  | [] => []
  | event :: rest =>
      .ofMachine (machine.after event) none :: (machine.after event).inspections rest

namespace Pacer

/-- Something that is done to a pacer: a command or a wake-up at any time, or a cycle or a tick of
its player that no metronome has asked for. -/
inductive Operation where
  | command (command : Command) (now : Nat)
  | cycle
  | tick
  | wake (now : Nat)

namespace Operation

/-- The command of an operation, if it is one. -/
def command? : Operation → Option Command
  | .command asked _ => some asked
  | _ => none

/-- What an operation does to a key, if it is about one. -/
def keyEvent? (operation : Operation) : Option Machine.Event :=
  operation.command?.bind Command.keyEvent?

end Operation

/-- The pacer behind an operation. -/
def operate (pacer : Pacer) : Operation → Pacer
  | .command command now => (pacer.handle command now).2
  | .cycle => { pacer with player := pacer.player.cycle }
  | .tick => { pacer with player := pacer.player.tick }
  | .wake now => pacer.catchUp now

/-- The pacer behind a list of operations, the first of which comes first. -/
def operateAll (pacer : Pacer) : List Operation → Pacer
  | [] => pacer
  | operation :: rest => (pacer.operate operation).operateAll rest

/-- Something holds of every operation and the pacer to which it is done. -/
def Throughout (holds : Pacer → Operation → Prop) (pacer : Pacer) : List Operation → Prop
  | [] => True
  | operation :: rest => holds pacer operation ∧ (pacer.operate operation).Throughout holds rest

/-- An operation that neither resumes a paused run nor ends it nor replaces its machine: a stored
state may be offered as long as it is refused. -/
def KeepsPaused (pacer : Pacer) (operation : Operation) : Prop :=
  ∀ command, operation.command? = some command →
    command.endsRun = false ∧ command ≠ .togglePause ∧
      ∀ stored, command = .load stored → (pacer.player.handle command).1 ≠ .done

variable {pacer : Pacer} {operation : Operation} {operations : List Operation}

/-- As long as the player is not running, a wake-up performs no beat, and every other operation is
an event of the player. -/
theorem player_operate (resting : pacer.player.state ≠ .running) (operation : Operation) :
    operation.command? = none ∧ (pacer.operate operation).player = pacer.player ∨
      ∃ event : Player.Event, event.command? = operation.command? ∧
        (pacer.operate operation).player = pacer.player.after event := by
  cases operation with
  | command command now => exact .inr ⟨.command command, rfl, pacer.player_handle command now⟩
  | cycle => exact .inr ⟨.cycle, rfl, rfl⟩
  | tick => exact .inr ⟨.tick, rfl, rfl⟩
  | wake now => exact .inl ⟨rfl, congrArg Pacer.player (catchUp_of_not_running resting)⟩

theorem player_operate_of_halted {fault : Fault} (halted : pacer.player.state = .halted fault)
    (goesOn : ∀ command, operation.command? = some command → command.endsRun = false) :
    (pacer.operate operation).player = pacer.player := by
  obtain ⟨-, same⟩ | ⟨event, asked, moved⟩ :=
    player_operate (by rw [halted]; exact nofun) operation
  · exact same
  · rw [← asked] at goesOn
    rw [moved, Player.after_of_halted halted goesOn]

theorem player_operate_of_idle (idle : pacer.player.state = .idle)
    (noStart : ∀ command, operation.command? = some command → command.startsRun = false) :
    (pacer.operate operation).player = pacer.player := by
  obtain ⟨-, same⟩ | ⟨event, asked, moved⟩ := player_operate (by rw [idle]; exact nofun) operation
  · exact same
  · rw [← asked] at noStart
    rw [moved, Player.after_of_idle idle noStart]

theorem player_operate_of_paused (paused : pacer.player.state = .paused)
    (goesOn : pacer.KeepsPaused operation) :
    (pacer.operate operation).player = pacer.player.passKey operation.keyEvent? := by
  obtain ⟨noCommand, same⟩ | ⟨event, asked, moved⟩ :=
    player_operate (by rw [paused]; exact nofun) operation
  · rw [same, Operation.keyEvent?, noCommand]
    rfl
  · rw [KeepsPaused, ← asked] at goesOn
    rw [moved, Player.after_of_paused paused goesOn, Player.Event.keyEvent?, asked]
    rfl

/-- A halted player stays as it is until its run is ended. -/
theorem operateAll_of_halted {fault : Fault} (halted : pacer.player.state = .halted fault)
    (goesOn : ∀ operation ∈ operations, ∀ command, operation.command? = some command →
      command.endsRun = false) :
    (pacer.operateAll operations).player = pacer.player := by
  induction operations generalizing pacer with
  | nil => rfl
  | cons operation rest ih =>
      obtain ⟨first, others⟩ := List.forall_mem_cons.mp goesOn
      have same := player_operate_of_halted halted first
      rw [operateAll, ih (by rw [same, halted]) others, same]

/-- An idle player stays as it is until a run is started. -/
theorem operateAll_of_idle (idle : pacer.player.state = .idle)
    (noStart : ∀ operation ∈ operations, ∀ command, operation.command? = some command →
      command.startsRun = false) :
    (pacer.operateAll operations).player = pacer.player := by
  induction operations generalizing pacer with
  | nil => rfl
  | cons operation rest ih =>
      obtain ⟨first, others⟩ := List.forall_mem_cons.mp noStart
      have same := player_operate_of_idle idle first
      rw [operateAll, ih (by rw [same, idle]) others, same]

/-- A paused player passes keys on to its machine and publishes an inspection for each of them. -/
theorem operateAll_of_paused {run : Run} (paused : pacer.player.phase = .paused run)
    (goesOn : pacer.Throughout KeepsPaused operations) :
    (pacer.operateAll operations).player =
      { pacer.player with
        phase := .paused
          { run with machine := run.machine.afterAll (operations.filterMap (·.keyEvent?)) }
        channels := { pacer.player.channels with
          inspection := pacer.player.channels.inspection.publishEach
            (run.machine.inspections (operations.filterMap (·.keyEvent?))) } } := by
  induction operations generalizing pacer run with
  | nil =>
      show pacer.player = { pacer.player with phase := .paused run }
      rw [← paused]
  | cons operation rest ih =>
      obtain ⟨first, others⟩ := goesOn
      have stopped : pacer.player.state = .paused := congrArg Phase.state paused
      have moved := player_operate_of_paused stopped first
      rw [operateAll]
      cases key : operation.keyEvent? with
      | none =>
          have same : (pacer.operate operation).player = pacer.player := by
            rw [moved, key]
            rfl
          rw [ih (by rw [same, paused]) others, same, List.filterMap_cons_none key]
      | some event =>
          rw [key] at moved
          simp only [Player.passKey, paused] at moved
          rw [ih (by rw [moved]) others, moved, List.filterMap_cons_some key]
          rfl

/-- Each key event publishes one inspection. -/
theorem published_inspections (broadcast : Broadcast Inspection) (machine : Machine)
    (keys : List Machine.Event) :
    (broadcast.publishEach (machine.inspections keys)).published =
      broadcast.published + keys.length := by
  induction keys generalizing broadcast machine with
  | nil => rfl
  | cons key rest ih =>
      have next := ih (broadcast.publish (.ofMachine (machine.after key) none)) (machine.after key)
      rw [List.length_cons, Nat.add_comm rest.length, ← Nat.add_assoc]
      exact next

/-- Only the right commands leave a stopped state. A halted player stays as it is whatever is done
to its pacer, until its run is ended; an idle one until a run is started. A paused player that is
neither resumed nor ended, and to which no stored state is loaded, stays paused: its machine meets
the key events in their order and nothing else, and each of them publishes one inspection. -/
theorem operateAll_of_stopped (pacer : Pacer) (operations : List Operation) :
    (∀ fault, pacer.player.state = .halted fault →
      (∀ operation ∈ operations, ∀ command, operation.command? = some command →
        command.endsRun = false) →
      (pacer.operateAll operations).player = pacer.player) ∧
    (pacer.player.state = .idle →
      (∀ operation ∈ operations, ∀ command, operation.command? = some command →
        command.startsRun = false) →
      (pacer.operateAll operations).player = pacer.player ∧
        (pacer.operateAll operations).player.machine? = none) ∧
    ∀ run, pacer.player.phase = .paused run → pacer.Throughout KeepsPaused operations →
      let keys := operations.filterMap (·.keyEvent?)
      let inspection := pacer.player.channels.inspection.publishEach (run.machine.inspections keys)
      (pacer.operateAll operations).player =
          { pacer.player with
            phase := .paused { run with machine := run.machine.afterAll keys }
            channels := { pacer.player.channels with inspection } } ∧
        inspection.published = pacer.player.channels.inspection.published + keys.length := by
  refine ⟨fun fault halted goesOn => operateAll_of_halted halted goesOn, ?_, ?_⟩
  · intro idle noStart
    have same := operateAll_of_idle idle noStart
    refine ⟨same, ?_⟩
    rw [same]
    obtain ⟨⟨settings, phase, channels⟩, cycles, ticks⟩ := pacer
    cases phase with
    | idle => rfl
    | running | paused | halted => cases idle
  · intro run paused goesOn keys inspection
    exact ⟨operateAll_of_paused paused goesOn, published_inspections _ _ _⟩

/-- A run that is paused while its program waits for a key: the key completes the instruction, and
neither cycles, ticks nor wake-ups do anything. -/
theorem operateAll_of_stopped_waiting :
    let program : Program := ⟨"wait", [0xF3, 0x0A], .ofBytes [0xF3, 0x0A], by simp, by decide, rfl⟩
    let started := ((start ⟨700, some 0⟩ 0).handle (.start program 0) 0).2
    let paused := ((started.operate .cycle).handle .togglePause 5).2
    let operations : List Operation :=
      [.wake 1000000000, .command (.press ⟨7⟩) 6, .cycle, .tick, .command (.release ⟨7⟩) 9]
    let player := (paused.operateAll operations).player
    player.state = .paused ∧
      player.machine?.map (fun machine => (machine.counter, machine.reg 3)) = some (0x202, 7) ∧
      player.channels.inspection.published =
        paused.player.channels.inspection.published + 2 := by
  intro program started paused operations player
  let booted := (Machine.boot [0xF3, 0x0A] 0).acknowledgeScreen
  let waiting : Run := ⟨program, (booted.perform (.waitForKey 3)).acknowledgeScreen⟩
  have fetched : booted.fetch = .ok (.waitForKey 3) :=
    Machine.fetch_of_image rfl (by decide) (by decide)
  -- stated of any pacer, so that nothing is evaluated but what the operations ask for
  have pauses (pacer paused : Pacer) (begun : pacer.player.phase = .running ⟨program, booted⟩)
      (moved : paused = ((pacer.operate .cycle).handle .togglePause 5).2) :
      paused.player.phase = .paused waiting := by
    obtain ⟨⟨settings, phase, channels⟩, cycles, ticks⟩ := pacer
    cases begun
    rw [moved, player_handle, operate,
      Player.cycle_of_executed (Machine.step_of_fetch rfl fetched rfl)]
    rfl
  have answered :
      let machine := waiting.machine.afterAll [.press ⟨7⟩, .release ⟨7⟩]
      (machine.counter, machine.reg 3) = (0x202, 7) := by decide
  have toggled := pauses started paused rfl rfl
  have keepsPaused (pacer : Pacer) : pacer.Throughout KeepsPaused operations := by
    refine ⟨?_, ?_, ?_, ?_, ?_, trivial⟩ <;> rintro command ⟨⟩ <;> exact ⟨rfl, nofun, nofun⟩
  obtain ⟨-, -, stays⟩ := operateAll_of_stopped paused operations
  obtain ⟨same, published⟩ := stays waiting toggled (keepsPaused paused)
  refine ⟨?_, ?_, ?_⟩
  · show (paused.operateAll operations).player.state = .paused
    rw [same]
    rfl
  · show (paused.operateAll operations).player.machine?.map _ = _
    rw [same]
    exact congrArg some answered
  · show (paused.operateAll operations).player.channels.inspection.published = _
    rw [same]
    exact published

end Pacer

end Chip8
