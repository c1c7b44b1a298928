import Chip8.Machine.History
import Chip8.Player.History

/-!
# Players that are not running

A player that is idle or halted is deaf to everything but the commands that lead out of its state,
and a paused one takes note of keys and of nothing else. Each of these states has one lemma, which
says what anything that can happen makes of the whole player.
-/

namespace Chip8

namespace Command

/-- Whether a command asks for a new run. -/
def startsRun : Command → Bool
  | .start _ _ => true
  | _ => false

/-- Whether a command asks for the end of the run. -/
def endsRun : Command → Bool
  | .stop => true
  | .shutDown => true
  | _ => false

/-- What a command does to a key, if it is about one. -/
def keyEvent? : Command → Option Machine.Event
  | .press key => some (.press key)
  | .release key => some (.release key)
  | _ => none

end Command

namespace Player

/-- The command that an event carries, if it is one. -/
def Event.command? : Event → Option Command
  | .command asked => some asked
  | _ => none

/-- What an event does to a key, if it is about one. -/
def Event.keyEvent? (event : Event) : Option Machine.Event :=
  event.command?.bind Command.keyEvent?

/-- A paused player that has passed a key event on to its machine, if the event was one. -/
def passKey (player : Player) : Option Machine.Event → Player
  | none => player
  | some key =>
      match player.phase with
      | .paused run =>
          { player with
            phase := .paused { run with machine := run.machine.after key }
            channels := player.channels.publishInspection (run.machine.after key) .paused }
      | _ => player

variable {player : Player} {event : Event}

/-- Nothing but its end reaches a run that was halted. -/
theorem after_of_halted {fault : Fault} (halted : player.state = .halted fault)
    (goesOn : ∀ command, event.command? = some command → command.endsRun = false) :
    player.after event = player := by
  obtain ⟨settings, phase, channels⟩ := player
  cases phase with
  | idle | running | paused => cases halted
  | halted run other =>
      cases event with
      | cycle | tick => rfl
      | command command =>
          have goesOn := goesOn command rfl
          cases command with
          | stop | shutDown => cases goesOn
          | start | togglePause | press | release | save | load | askState => rfl

/-- Nothing but a start reaches a player without a run. -/
theorem after_of_idle (idle : player.state = .idle)
    (noStart : ∀ command, event.command? = some command → command.startsRun = false) :
    player.after event = player := by
  obtain ⟨settings, phase, channels⟩ := player
  cases phase with
  | running | paused | halted => cases idle
  | idle =>
      cases event with
      | cycle | tick => rfl
      | command command =>
          have noStart := noStart command rfl
          cases command with
          | start => cases noStart
          | stop | shutDown | togglePause | press | release | save | load | askState => rfl

/-- A paused run takes note of keys, and of nothing else unless it is resumed, ended or
replaced. -/
theorem after_of_paused (paused : player.state = .paused)
    (goesOn : ∀ command, event.command? = some command →
      command.endsRun = false ∧ command ≠ .togglePause ∧
        ∀ stored, command = .load stored → (player.handle command).1 ≠ .done) :
    player.after event = player.passKey event.keyEvent? := by
  obtain ⟨settings, phase, channels⟩ := player
  cases phase with
  | idle | running | halted => cases paused
  | paused run =>
      cases event with
      | cycle | tick => rfl
      | command command =>
          obtain ⟨notEnded, notToggled, notLoaded⟩ := goesOn command rfl
          cases command with
          | stop | shutDown => cases notEnded
          | togglePause => cases notToggled rfl
          | start | press | release | save | askState => rfl
          | load stored =>
              have foreign : run.program.digest ≠ stored.digest := by
                intro same
                apply notLoaded stored rfl
                simp only [handle, load, if_pos same]
              simp only [Player.after, handle, load, if_neg foreign]
              rfl

end Player

end Chip8
