import Chip8.Player

/-!
# Commands

Everything a player can be asked to do, as values, and the replies. A command that is refused
leaves the player as it was.
-/

namespace Chip8

/-- A request to a player. -/
inductive Command where
  /-- Start a program, with a fresh seed in case the settings fix none. -/
  | start (program : Program) (fresh : UInt64)
  | stop
  | togglePause
  | press (key : Key)
  | release (key : Key)
  | save
  | load (stored : SaveState)
  | askState
  /-- Stop and take no more commands. -/
  | shutDown

/-- What a player replies. -/
inductive Reply where
  | done
  | refused (refusal : Refusal)
  | playing (playing : Playing)
  | saved (stored : SaveState)
  | state (state : RunState)
  | goodbye

namespace Player

/-- The reply to a command and the player after it. -/
def handle (player : Player) (command : Command) : Reply × Player :=
  match command with
  | .start program fresh =>
      match player.start program fresh with
      | .ok started => (.done, started)
      | .error refusal => (.refused refusal, player)
  | .stop => (.done, player.stop)
  | .togglePause =>
      match player.togglePause with
      | .ok toggled => (.playing toggled.state.playing, toggled)
      | .error refusal => (.refused refusal, player)
  | .press key => (.done, player.press key)
  | .release key => (.done, player.release key)
  | .save =>
      match player.save with
      | .ok stored => (.saved stored, player)
      | .error refusal => (.refused refusal, player)
  | .load stored =>
      match player.load stored with
      | .ok loaded => (.done, loaded)
      | .error refusal => (.refused refusal, player)
  | .askState => (.state player.state, player)
  | .shutDown => (.goodbye, player.stop)

/-- A refused command leaves the player as it was. -/
theorem handle_of_refused {player : Player} {command : Command} {refusal : Refusal}
    (refused : (player.handle command).1 = .refused refusal) :
    (player.handle command).2 = player := by
  cases command <;> simp only [handle] at refused ⊢ <;> first
    | (split at refused <;> simp_all)
    | simp_all

end Player

end Chip8
