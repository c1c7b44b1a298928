import Chip8.Player.Command

/-!
# Commands in place

The functions of a player return a new player, or they refuse and return none. In place, the run
state, the run and the broadcasts are cells of their own: a command changes one after the other,
publishes on one broadcast after the other, and whatever was changed before it is refused stays
changed. `Player.handle_parts` says that this comes to the same, so a refusal always comes before
the first change.
-/

namespace Chip8.Player

/-- The parts of a player, each of which can be changed without the others. -/
structure Parts where
  settings : Settings
  state : RunState
  run : Option Run
  channels : Channels

/-- The parts of a player. -/
def parts (player : Player) : Parts :=
  ⟨player.settings, player.state, player.phase.run?, player.channels⟩

namespace Parts

/-- Publish the play button of the run state. -/
def publishPlaying (parts : Parts) : Parts :=
  { parts with channels := parts.channels.publishPlaying parts.state }

/-- Publish the inspection of the run, or of no run. -/
def publishInspection (parts : Parts) : Parts :=
  match parts.run with
  | some run =>
      { parts with channels := parts.channels.publishInspection run.machine parts.state }
  | none =>
      let inspection := parts.channels.inspection.publish .blank
      { parts with channels := { parts.channels with inspection } }

/-- Take note of the screen and publish all there is to know. -/
def publishAll (parts : Parts) : Parts :=
  match parts.run with
  | some run =>
      let machine := run.machine.acknowledgeScreen
      let parts := { parts with run := some { run with machine } }
      let parts := { parts with channels := parts.channels.publishFrame machine }
      let parts := { parts with channels := parts.channels.publishSound machine }
      parts.publishPlaying.publishInspection
  | none => parts.publishPlaying.publishInspection

/-- Start a run of a program. -/
def start (parts : Parts) (program : Program) (fresh : UInt64) : Except Refusal Unit × Parts :=
  if parts.state ≠ .idle then (.error .alreadyStarted, parts)
  else
    let machine := Machine.boot program.image (parts.settings.seedFor fresh)
    let parts := { parts with run := some ⟨program, machine⟩ }
    let parts := { parts with state := .running }
    (.ok (), parts.publishAll)

/-- End the run, if there is one. -/
def stop (parts : Parts) : Parts :=
  if parts.state = .idle then parts
  else
    let parts := { parts with run := none }
    let parts := { parts with state := .idle }
    let channels := { parts.channels with frame := parts.channels.frame.publish .blank }
    let channels := { channels with sound := channels.sound.publish 0 }
    let parts := { parts with channels }
    parts.publishInspection.publishPlaying

/-- Go over into a run state and tell the play button. -/
def turn (parts : Parts) (state : RunState) : Except Refusal Playing × Parts :=
  let parts := { parts with state }
  (.ok parts.state.playing, parts.publishPlaying)

/-- Pause a running run or resume a paused one. -/
def togglePause (parts : Parts) : Except Refusal Playing × Parts :=
  match parts.state with
  | .running => parts.turn .paused
  | .paused => parts.turn .running
  | .idle => (.error .notStarted, parts)
  | .halted fault => (.error (.halted fault), parts)

/-- Let something happen to the keys of a run that is running or paused. -/
def withKeys (parts : Parts) (change : Machine → Machine) : Parts :=
  match parts.state, parts.run with
  | .running, some run | .paused, some run =>
      let parts := { parts with run := some { run with machine := change run.machine } }
      parts.publishInspection
  | _, _ => parts

/-- Copy the state of the run. -/
def save (parts : Parts) : Except Refusal SaveState :=
  match parts.run with
  | some run => .ok ⟨run.program.digest, run.machine⟩
  | none => .error .notStarted

/-- Put a stored state in the place of the machine, if it belongs to the program that runs. -/
def load (parts : Parts) (stored : SaveState) : Except Refusal Unit × Parts :=
  match parts.state, parts.run with
  | .halted fault, _ => (.error (.halted fault), parts)
  | _, none => (.error .notStarted, parts)
  | _, some run =>
      if run.program.digest ≠ stored.digest then
        (.error (.foreignState run.program.digest stored.digest), parts)
      else
        let machine := run.machine.restore stored.machine
        let parts := { parts with run := some { run with machine } }
        (.ok (), parts.publishAll)

/-- What is replied to a command that can be refused. -/
def replyOf {α : Type} (carriedOut : α → Reply) : Except Refusal α → Reply
  | .ok value => carriedOut value
  | .error refusal => .refused refusal

/-- The reply to a command, and the parts as it leaves them. -/
def handle (parts : Parts) : Command → Reply × Parts
  | .start program fresh =>
      let (outcome, left) := parts.start program fresh
      (replyOf (fun _ => .done) outcome, left)
  | .stop => (.done, parts.stop)
  | .togglePause =>
      let (outcome, left) := parts.togglePause
      (replyOf .playing outcome, left)
  | .press key => (.done, parts.withKeys (·.press key))
  | .release key => (.done, parts.withKeys (·.release key))
  | .save => (replyOf .saved parts.save, parts)
  | .load stored =>
      let (outcome, left) := parts.load stored
      (replyOf (fun _ => .done) outcome, left)
  | .askState => (.state parts.state, parts)
  | .shutDown => (.goodbye, parts.stop)

end Parts

/-- Loading is the only command in which more than the run state decides. -/
theorem load_parts (player : Player) (stored : SaveState) :
    player.parts.load stored =
      match player.load stored with
      | .ok loaded => (.ok (), loaded.parts)
      | .error refusal => (.error refusal, player.parts) := by
  obtain ⟨settings, phase, channels⟩ := player
  cases phase with
  | idle | halted => rfl
  | running run | paused run =>
      simp only [load]
      by_cases same : run.program.digest = stored.digest
      · rw [if_pos same]
        exact if_neg (not_not_intro same)
      · rw [if_neg same]
        exact if_pos same

theorem withKeys_parts (player : Player) (change : Machine → Machine) :
    player.parts.withKeys change = (player.withKeys change).parts := by
  obtain ⟨settings, phase, channels⟩ := player
  cases phase <;> rfl

theorem stop_parts (player : Player) : player.parts.stop = player.stop.parts := by
  obtain ⟨settings, phase, channels⟩ := player
  cases phase <;> rfl

/-- A command in place gives the same reply and leaves the parts of the same player. -/
theorem handle_parts (player : Player) (command : Command) :
    player.parts.handle command =
      ((player.handle command).1, (player.handle command).2.parts) := by
  cases command with
  | stop | shutDown => exact congrArg (Prod.mk _) player.stop_parts
  | press key | release key => exact congrArg (Prod.mk _) (player.withKeys_parts _)
  | askState => rfl
  | load stored =>
      rw [Parts.handle, load_parts, handle]
      cases player.load stored <;> rfl
  | start | togglePause | save =>
      obtain ⟨settings, phase, channels⟩ := player
      cases phase <;> rfl

end Chip8.Player
