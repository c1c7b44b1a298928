import Chip8.Proofs.Player.Loading
import Chip8.Proofs.Player.News
import Chip8.Proofs.Player.Stopped

/-!
# Players that go on alike

Settings, the number of values published so far and whatever a program is called besides its digest
have no influence on a run. `Player.Alike` leaves them out: two players that agree in run state,
digest and machine reply alike, publish alike and stay alike until a run is started.
-/

namespace Chip8

/-- Two phases of the same kind whose runs have machines in common and programs of one digest. -/
inductive Phase.Alike : Phase → Phase → Prop where
  | idle : Alike .idle .idle
  | running {first second : Program} (same : first.digest = second.digest) (machine : Machine) :
      Alike (.running ⟨first, machine⟩) (.running ⟨second, machine⟩)
  | paused {first second : Program} (same : first.digest = second.digest) (machine : Machine) :
      Alike (.paused ⟨first, machine⟩) (.paused ⟨second, machine⟩)
  | halted {first second : Program} (same : first.digest = second.digest) (machine : Machine)
      (fault : Fault) :
      Alike (.halted ⟨first, machine⟩ fault) (.halted ⟨second, machine⟩ fault)

namespace Player

/-- Two players that cannot be told apart by what they do until a run is started. -/
def Alike (left right : Player) : Prop := left.phase.Alike right.phase

variable {left right player : Player} {event : Event} {events : List Event}

/-- Players are alike exactly if they have the same run state and save the same. -/
theorem alike_iff : left.Alike right ↔ left.state = right.state ∧ left.save = right.save := by
  obtain ⟨_, first, _⟩ := left
  obtain ⟨_, second, _⟩ := right
  constructor
  · intro alike
    cases alike with
    | idle => exact ⟨rfl, rfl⟩
    | running same | paused same | halted same =>
        refine ⟨rfl, ?_⟩
        simp only [save, Phase.run?, same]
  · rintro ⟨state, saved⟩
    cases first with
    | idle =>
        cases second <;> cases state
        exact .idle
    | running run | paused run | halted run =>
        cases second <;> cases state
        obtain ⟨digest, machine⟩ : _ ∧ _ := by simpa [save, Phase.run?] using saved
        cases run
        cases machine
        constructor
        exact digest

theorem Alike.machine?_eq (alike : left.Alike right) : left.machine? = right.machine? := by
  obtain ⟨_, first, _⟩ := left
  obtain ⟨_, second, _⟩ := right
  cases alike <;> rfl

theorem Alike.refl (player : Player) : player.Alike player :=
  alike_iff.mpr ⟨rfl, rfl⟩

theorem Alike.symm (alike : left.Alike right) : right.Alike left := by
  obtain ⟨state, saved⟩ := alike_iff.mp alike
  exact alike_iff.mpr ⟨state.symm, saved.symm⟩

theorem Alike.trans {middle : Player} (first : left.Alike middle) (second : middle.Alike right) :
    left.Alike right := by
  obtain ⟨state, saved⟩ := alike_iff.mp first
  obtain ⟨state', saved'⟩ := alike_iff.mp second
  exact alike_iff.mpr ⟨state.trans state', saved.trans saved'⟩

/-- What two players have become is alike again, and on the way both told the same. -/
structure GoOnAlike (left right left' right' : Player) : Prop where
  news : ∃ news, left'.channels = left.channels.tell news ∧
    right'.channels = right.channels.tell news
  alike : left'.Alike right'

/-- Players that go on alike behind an event have published the same in the course of it. -/
theorem GoOnAlike.news_eq (goOn : GoOnAlike left right (left.after event) (right.after event)) :
    left.news event = right.news event := by
  obtain ⟨news, leftTold, rightTold⟩ := goOn.news
  rw [news_of_tell leftTold, news_of_tell rightTold]

/-- Alike players that stay as they are go on alike. -/
theorem Alike.stay (alike : left.Alike right) : GoOnAlike left right left right :=
  ⟨⟨.nothing, rfl, rfl⟩, alike⟩

theorem Alike.stop (alike : left.Alike right) : GoOnAlike left right left.stop right.stop := by
  obtain ⟨_, first, _⟩ := left
  obtain ⟨_, second, _⟩ := right
  cases alike with
  | idle => exact ⟨⟨.nothing, rfl, rfl⟩, .idle⟩
  | running | paused | halted => exact ⟨⟨.ofEnd, rfl, rfl⟩, .idle⟩

theorem Alike.withKeys (alike : left.Alike right) (change : Machine → Machine) :
    GoOnAlike left right (left.withKeys change) (right.withKeys change) := by
  obtain ⟨_, first, _⟩ := left
  obtain ⟨_, second, _⟩ := right
  cases alike with
  | idle => exact ⟨⟨.nothing, rfl, rfl⟩, .idle⟩
  | halted same machine fault => exact ⟨⟨.nothing, rfl, rfl⟩, .halted same machine fault⟩
  | running same machine =>
      exact ⟨⟨.ofInspection (change machine) .running, rfl, rfl⟩, .running same _⟩
  | paused same machine =>
      exact ⟨⟨.ofInspection (change machine) .paused, rfl, rfl⟩, .paused same _⟩

theorem Alike.handle_togglePause (alike : left.Alike right) :
    (left.handle .togglePause).1 = (right.handle .togglePause).1 ∧
      GoOnAlike left right (left.handle .togglePause).2 (right.handle .togglePause).2 := by
  obtain ⟨_, first, _⟩ := left
  obtain ⟨_, second, _⟩ := right
  cases alike with
  | idle => exact ⟨rfl, ⟨.nothing, rfl, rfl⟩, .idle⟩
  | halted same machine fault => exact ⟨rfl, ⟨.nothing, rfl, rfl⟩, .halted same machine fault⟩
  | running same machine => exact ⟨rfl, ⟨.ofPlaying .paused, rfl, rfl⟩, .paused same machine⟩
  | paused same machine => exact ⟨rfl, ⟨.ofPlaying .running, rfl, rfl⟩, .running same machine⟩

theorem Alike.handle_load (alike : left.Alike right) (stored : SaveState) :
    (left.handle (.load stored)).1 = (right.handle (.load stored)).1 ∧
      GoOnAlike left right (left.handle (.load stored)).2 (right.handle (.load stored)).2 := by
  have still := alike
  obtain ⟨_, first, _⟩ := left
  obtain ⟨_, second, _⟩ := right
  cases alike with
  | idle | halted => exact ⟨rfl, still.stay⟩
  | @running first second same machine =>
      simp only [handle, load, same]
      by_cases fits : second.digest = stored.digest
      · simp only [if_pos fits]
        exact ⟨trivial, ⟨.ofMachine stored.machine .running, rfl, rfl⟩, .running same _⟩
      · simp only [if_neg fits]
        exact ⟨trivial, still.stay⟩
  | @paused first second same machine =>
      simp only [handle, load, same]
      by_cases fits : second.digest = stored.digest
      · simp only [if_pos fits]
        exact ⟨trivial, ⟨.ofMachine stored.machine .paused, rfl, rfl⟩, .paused same _⟩
      · simp only [if_neg fits]
        exact ⟨trivial, still.stay⟩

/-- Alike players carry out a command alike and give the same reply, unless it starts a run. -/
theorem Alike.handle (alike : left.Alike right) (command : Command)
    (noStart : command.startsRun = false) :
    (left.handle command).1 = (right.handle command).1 ∧
      GoOnAlike left right (left.handle command).2 (right.handle command).2 := by
  obtain ⟨state, saved⟩ := alike_iff.mp alike
  cases command with
  | start => cases noStart
  | stop | shutDown => exact ⟨rfl, alike.stop⟩
  | press key | release key => exact ⟨rfl, alike.withKeys _⟩
  | togglePause => exact alike.handle_togglePause
  | load stored => exact alike.handle_load stored
  | askState => exact ⟨congrArg Reply.state state, alike.stay⟩
  | save =>
      simp only [Player.handle, saved]
      split <;> exact ⟨rfl, alike.stay⟩

/-- Alike players make the same of an instruction cycle. -/
theorem Alike.cycle (alike : left.Alike right) : GoOnAlike left right left.cycle right.cycle := by
  have still := alike
  obtain ⟨_, first, _⟩ := left
  obtain ⟨_, second, _⟩ := right
  cases alike with
  | idle | paused | halted => exact still.stay
  | running same machine =>
      rcases machine.step_cases with ⟨_, step⟩ | ⟨fault, _, step⟩ | ⟨instruction, _, _, _, step⟩
      · simp only [cycle_of_waiting step]
        exact still.stay
      · simp only [cycle_of_faulted step]
        exact ⟨⟨.ofHalt machine fault, rfl, rfl⟩, .halted same machine fault⟩
      · simp only [cycle_of_executed step]
        refine ⟨⟨.ofExecuted machine.timers.sound (machine.perform instruction) instruction,
          ?_, ?_⟩, .running same _⟩ <;> exact publishExecuted_eq_tell _ _ _ _

/-- Alike players make the same of a timer tick. -/
theorem Alike.tick (alike : left.Alike right) : GoOnAlike left right left.tick right.tick := by
  have still := alike
  obtain ⟨_, first, _⟩ := left
  obtain ⟨_, second, _⟩ := right
  cases alike with
  | idle | paused | halted => exact still.stay
  | running same machine =>
      refine ⟨⟨.ofSoundChange machine.timers.sound machine.tick, ?_, ?_⟩, .running same _⟩ <;>
        exact publishSoundChange_eq_tell _ _ _

/-- Alike players make the same of everything that starts no run. -/
theorem Alike.after (alike : left.Alike right)
    (noStart : ∀ command, event.command? = some command → command.startsRun = false) :
    GoOnAlike left right (left.after event) (right.after event) := by
  cases event with
  | command command => exact (alike.handle command (noStart command rfl)).2
  | cycle => exact alike.cycle
  | tick => exact alike.tick

/-- An event publishes its news, and nothing besides. -/
theorem channels_after (player : Player) (event : Event) :
    (player.after event).channels = player.channels.tell (player.news event) := by
  have told : ∃ news, (player.after event).channels = player.channels.tell news := by
    cases event with
    | cycle => exact (Alike.refl player).cycle.news.imp fun _ => And.left
    | tick => exact (Alike.refl player).tick.news.imp fun _ => And.left
    | command command =>
        cases starts : command.startsRun with
        | false => exact ((Alike.refl player).handle command starts).2.news.imp fun _ => And.left
        | true =>
            obtain ⟨settings, phase, channels⟩ := player
            cases command with
            | start program fresh =>
                cases phase with
                | idle =>
                    let booted := Machine.boot program.image (settings.seedFor fresh)
                    exact ⟨.ofMachine booted .running, rfl⟩
                | running | paused | halted => exact ⟨.nothing, rfl⟩
            | _ => cases starts
  obtain ⟨news, told⟩ := told
  rw [news_of_tell told, told]

/-- The broadcasts behind a course of events hold what they held before and the news since. -/
theorem channels_afterAll (player : Player) (events : List Event) :
    (player.afterAll events).channels = player.channels.tellAll (player.newsAll events) := by
  induction events generalizing player with
  | nil => rfl
  | cons event rest ih =>
      rw [afterAll, ih, channels_after]
      rfl

/-- Players of which every event of some kind lets the same be replied and told, whenever they are
related, and leaves them related: any number of such events do. -/
theorem conduct_of_steps {related : Player → Player → Prop} {allowed : Event → Prop}
    (steps : ∀ left right event, related left right → allowed event →
      left.replies [event] = right.replies [event] ∧
        GoOnAlike left right (left.after event) (right.after event) ∧
        related (left.after event) (right.after event))
    (begin : related left right) (all : ∀ event ∈ events, allowed event) :
    left.replies events = right.replies events ∧ left.newsAll events = right.newsAll events ∧
      related (left.afterAll events) (right.afterAll events) := by
  induction events generalizing left right with
  | nil => exact ⟨rfl, rfl, begin⟩
  | cons event rest ih =>
      obtain ⟨first, others⟩ := List.forall_mem_cons.mp all
      obtain ⟨reply, goOn, still⟩ := steps left right event begin first
      obtain ⟨replies, news, last⟩ := ih still others
      refine ⟨?_, ?_, last⟩
      · rw [← List.singleton_append, replies_append, replies_append, reply]
        exact congrArg _ replies
      · rw [newsAll, newsAll, goOn.news_eq, news]

/-- Whatever happens to alike players, as long as no run is started: they give the same replies,
publish the same and stay alike. -/
theorem Alike.afterAll (alike : left.Alike right)
    (noStart : ∀ event ∈ events, ∀ command, event.command? = some command →
      command.startsRun = false) :
    left.replies events = right.replies events ∧ left.newsAll events = right.newsAll events ∧
      (left.afterAll events).Alike (right.afterAll events) := by
  refine conduct_of_steps (fun left right event alike noStart => ?_) alike noStart
  have goOn := alike.after noStart
  refine ⟨?_, goOn, goOn.alike⟩
  cases event with
  | command command =>
      exact congrArg (fun reply => [reply]) (alike.handle command (noStart command rfl)).1
  | cycle | tick => rfl

end Player

end Chip8
