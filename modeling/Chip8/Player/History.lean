import Chip8.Machine.History
import Chip8.Player.Command

/-!
# Histories of a player

Everything that can happen to a player, as values. `Player.chronicle` shows beside every event the
player that met it. `Player.Reachable` are the players that come about when nobody loads a state but
one that such a player has saved.
-/

namespace Chip8.Player

/-- Something that happens to a player. -/
inductive Event where
  | command (command : Command)
  | cycle
  | tick

/-- The player behind an event. -/
def after (player : Player) : Event → Player
  | .command command => (player.handle command).2
  | .cycle => player.cycle
  | .tick => player.tick

/-- The player behind a list of events, the first of which happens first. -/
def afterAll (player : Player) : List Event → Player
  | [] => player
  | event :: rest => (player.after event).afterAll rest

/-- The replies to the commands among the events, in order. -/
def replies (player : Player) : List Event → List Reply
  | [] => []
  | .command command :: rest =>
      (player.handle command).1 :: (player.handle command).2.replies rest
  | event :: rest => (player.after event).replies rest

/-- The instruction that an event lets the run execute, if it does. -/
def executed? (player : Player) : Event → Option Instruction
  | .cycle =>
      match player.phase with
      | .running run => run.machine.executed? .step
      | _ => none
  | _ => none

/-- Every event with the player that met it, in order. -/
def chronicle (player : Player) : List Event → List (Player × Event)
  | [] => []
  | event :: rest => (player, event) :: (player.after event).chronicle rest

/-- The stored state that an event asks to load, if it does. -/
def Event.loaded? : Event → Option SaveState
  | .command (.load stored) => some stored
  | _ => none

/-- The players that come about from any settings. A stored state comes from such a player too. -/
inductive Reachable : Player → Prop where
  | fresh (settings : Settings) : Reachable (.ofSettings settings)
  | after {player : Player} {event : Event} :
      event.loaded? = none → Reachable player → Reachable (player.after event)
  | load {player source : Player} {stored : SaveState} :
      source.save = .ok stored → Reachable source → Reachable player →
        Reachable (player.after (.command (.load stored)))

@[simp] theorem afterAll_append (player : Player) (first second : List Event) :
    player.afterAll (first ++ second) = (player.afterAll first).afterAll second := by
  induction first generalizing player with
  | nil => rfl
  | cons event rest ih => exact ih (player.after event)

@[simp] theorem replies_append (player : Player) (first second : List Event) :
    player.replies (first ++ second) =
      player.replies first ++ (player.afterAll first).replies second := by
  induction first generalizing player with
  | nil => rfl
  | cons event rest ih => cases event <;> simp [replies, afterAll, after, ih]

/-- The events of a chronicle are those that happened. -/
@[simp] theorem map_snd_chronicle (player : Player) (events : List Event) :
    (player.chronicle events).map Prod.snd = events := by
  induction events generalizing player with
  | nil => rfl
  | cons event rest ih => exact congrArg _ (ih (player.after event))

theorem mem_of_mem_chronicle {player : Player} {events : List Event} {entry : Player × Event}
    (listed : entry ∈ player.chronicle events) : entry.2 ∈ events := by
  rw [← map_snd_chronicle player events]
  exact List.mem_map_of_mem listed

end Chip8.Player
