import Chip8.Proofs.Player.Stopped
import Chip8.Proofs.Player.Transitions

/-!
# What happens to the machine of a run

A player hands on to its machine the cycles and ticks that find it running, and the keys that do not
find it halted. Unless the run is ended or its machine replaced, that is all: the machine behind any
events is the machine behind what `Player.course` makes of them.
-/

namespace Chip8.Player

/-- What an event lets happen to the machine of the run. -/
def course (player : Player) (event : Event) : List Machine.Event :=
  match player.phase, event with
  | .running run, .cycle =>
      .step :: ((run.machine.executed? .step).map fun _ => Machine.Event.acknowledge).toList
  | .running _, .tick => [.tick]
  | .running _, .command command | .paused _, .command command => command.keyEvent?.toList
  | _, _ => []

/-- What some events let happen to the machine of the run. -/
def courseAll (player : Player) (events : List Event) : List Machine.Event :=
  (player.chronicle events).flatMap fun (before, event) => before.course event

/-- An event neither ends the run of a player nor replaces its machine. -/
def KeepsMachine (player : Player) (event : Event) : Prop :=
  ∀ command, event.command? = some command →
    command.endsRun = false ∧ ∀ stored, command = .load stored → (player.handle command).1 ≠ .done

variable {player : Player} {event : Event} {events : List Event} {machine : Machine}

/-- Nothing but a command replaces a machine. -/
theorem keepsMachine_of_no_command (none : event.command? = none) : player.KeepsMachine event := by
  intro command asked
  rw [none] at asked
  cases asked

/-- Pausing and resuming replace no machine. -/
theorem keepsMachine_togglePause : player.KeepsMachine (.command .togglePause) := by
  rintro command ⟨⟩
  exact ⟨rfl, nofun⟩

/-- Nothing happens to a machine by being replaced. -/
theorem course_load (player : Player) (stored : SaveState) :
    player.course (.command (.load stored)) = [] := by
  obtain ⟨settings, phase, channels⟩ := player
  cases phase <;> rfl

/-- What a cycle lets happen to a machine that is running. -/
theorem machine?_cycle (live : player.machine? = some machine) :
    player.cycle.machine? = some (machine.afterAll (player.course .cycle)) := by
  obtain ⟨settings, phase, channels⟩ := player
  cases phase with
  | idle => cases live
  | paused | halted => exact live
  | running run =>
      cases live
      simp only [course, Machine.executed?]
      rcases run.machine.step_cases with ⟨_, step⟩ | ⟨_, _, step⟩ | ⟨_, _, _, _, step⟩
      · rw [cycle_of_waiting step]
        simp only [step, Machine.afterAll, Machine.after_step, Option.map_none, Option.toList_none]
        rfl
      · rw [cycle_of_faulted step]
        simp only [step, Machine.afterAll, Machine.after_step, Option.map_none, Option.toList_none]
        rfl
      · rw [cycle_of_executed step]
        simp only [step, Machine.afterAll, Machine.after_step, Option.map_some, Option.toList_some]
        rfl

/-- A stored state that is not loaded changes nothing. -/
theorem handle_load_of_not_done {stored : SaveState}
    (notLoaded : (player.handle (.load stored)).1 ≠ .done) :
    (player.handle (.load stored)).2 = player := by
  simp only [handle] at notLoaded ⊢
  split
  · rename_i accepted
    rw [accepted] at notLoaded
    exact absurd rfl notLoaded
  · rfl

/-- What an event makes of the machine of a run is what the event lets happen to it. -/
theorem machine?_after (live : player.machine? = some machine)
    (keeps : player.KeepsMachine event) :
    (player.after event).machine? = some (machine.afterAll (player.course event)) := by
  cases event with
  | cycle => exact machine?_cycle live
  | tick =>
      obtain ⟨settings, phase, channels⟩ := player
      cases phase with
      | idle => cases live
      | running | paused | halted =>
          cases live
          rfl
  | command command =>
      obtain ⟨goesOn, notLoaded⟩ := keeps command rfl
      cases command with
      | stop | shutDown => cases goesOn
      | load stored =>
          rw [after, handle_load_of_not_done (notLoaded stored rfl), live, course_load]
          rfl
      | start | togglePause | press | release | save | askState =>
          obtain ⟨settings, phase, channels⟩ := player
          cases phase with
          | idle => cases live
          | running | paused | halted =>
              cases live
              rfl

/-- As long as a run keeps its machine, what happens to the run is what happens to the machine. -/
theorem machine?_afterAll (live : player.machine? = some machine)
    (keep : ∀ entry ∈ player.chronicle events, entry.1.KeepsMachine entry.2) :
    (player.afterAll events).machine? = some (machine.afterAll (player.courseAll events)) := by
  induction events generalizing player machine with
  | nil => exact live
  | cons event rest ih =>
      obtain ⟨first, others⟩ := List.forall_mem_cons.mp keep
      rw [courseAll, chronicle, List.flatMap_cons, Machine.afterAll_append]
      exact ih (machine?_after live first) others

end Chip8.Player
