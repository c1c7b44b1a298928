import Chip8.Pacer
import Chip8.Proofs.Player.Alike

/-!
# Stored states replay exactly

A stored state carries everything that a run goes on with. Whoever takes it over, at whatever time
and after whatever history, has the machine that was saved, publishes what there is to know about
it, and from then on does what the player would do from which it was saved. Neither the run state
nor the metronomes take part in this.
-/

namespace Chip8.Pacer

/-- A pacer that follows no change of the run state leaves its metronomes alone. -/
theorem followChange_self (pacer : Pacer) (now : Nat) :
    pacer.followChange pacer.player.state now = pacer := by
  cases state : pacer.player.state <;> simp only [followChange, state]

/-- A command that does not change the run state leaves the metronomes alone. -/
theorem handle_of_same_state {pacer : Pacer} {command : Command}
    (same : (pacer.player.handle command).2.state = pacer.player.state) (now : Nat) :
    pacer.handle command now =
      ((pacer.player.handle command).1,
        { pacer with player := (pacer.player.handle command).2 }) := by
  have followed := followChange_self { pacer with player := (pacer.player.handle command).2 } now
  simp only [handle, ← same, followed]
  split <;> rfl

/-- Stored states replay exactly. What was saved of a reachable player is taken over by every run
of the program that is running or paused. Its run state, its program and the metronomes stay as
they are; its machine is the one that was saved, and each broadcast publishes once what there is to
know about it. If the run state is that of the player from which it was saved, both go on alike:
until a run is started they give the same replies, publish the same and save the same. A player
that takes over what it has just saved publishes once more what it has published last, and does
not change otherwise. -/
theorem handle_load_replays {source : Player} {stored : SaveState} (reachable : source.Reachable)
    (saved : source.save = .ok stored) (pacer : Pacer)
    (active : pacer.player.state = .running ∨ pacer.player.state = .paused)
    (same : pacer.player.digest? = source.digest?) (now : Nat) :
    ∃ loaded,
      pacer.handle (.load stored) now = (.done, { pacer with player := loaded }) ∧
      loaded.settings = pacer.player.settings ∧ loaded.state = pacer.player.state ∧
      loaded.program? = pacer.player.program? ∧
      loaded.machine? = source.machine? ∧
      (∃ machine, loaded.machine? = some machine ∧ machine.screenChanged = false ∧
        loaded.channels = pacer.player.channels.tell (.ofMachine machine loaded.state)) ∧
      (source.state = pacer.player.state →
        ∀ events : List Player.Event,
          (∀ event ∈ events, ∀ command, event.command? = some command →
            command.startsRun = false) →
          loaded.replies events = source.replies events ∧
            (loaded.afterAll events).channels =
              loaded.channels.tellAll (source.newsAll events) ∧
            (source.afterAll events).channels =
              source.channels.tellAll (source.newsAll events) ∧
            (loaded.afterAll events).save = (source.afterAll events).save) ∧
      (source = pacer.player →
        loaded = { source with channels := source.channels.tell source.channels.latest }) := by
  obtain ⟨digest, machine⟩ := Player.save_eq_ok_iff.mp saved
  have acknowledged : stored.machine.acknowledgeScreen = stored.machine := by
    rw [Machine.acknowledgeScreen, ← reachable.mirrors.acknowledged stored.machine machine]
  have live : pacer.player.state ≠ .idle := by
    rcases active with running | paused
    · rw [running]
      exact nofun
    · rw [paused]
      exact nofun
  have accepted := Player.load_eq active (same.trans digest)
  rw [acknowledged] at accepted
  have taken := pacer.player.machine?_withMachine live stored.machine
  have handled : pacer.player.handle (.load stored) =
      (.done, pacer.player.withMachine stored.machine) := by
    simp only [Player.handle, accepted]
  refine ⟨pacer.player.withMachine stored.machine, ?_, rfl, Player.state_withMachine _,
    Player.program?_withMachine _, ?_, ⟨stored.machine, ?_, ?_, ?_⟩, ?_, ?_⟩
  · rw [handle_of_same_state, handled]
    rw [handled]
    exact Player.state_withMachine _
  · exact taken.trans machine.symm
  · exact taken
  · rw [← acknowledged]
    rfl
  · rw [Player.state_withMachine]
    rfl
  · intro state events noStart
    have alike : (pacer.player.withMachine stored.machine).Alike source := by
      refine Player.alike_iff.mpr ⟨(Player.state_withMachine _).trans state.symm, ?_⟩
      rw [saved, Player.save_eq_ok_iff]
      refine ⟨?_, taken⟩
      rw [Player.digest?, Player.program?_withMachine]
      exact same.trans digest
    obtain ⟨replies, news, last⟩ := alike.afterAll noStart
    refine ⟨replies, ?_, Player.channels_afterAll source events, (Player.alike_iff.mp last).2⟩
    rw [← news]
    exact Player.channels_afterAll _ events
  · rintro rfl
    rw [reachable.mirrors.latest machine, Player.withMachine, Player.withMachine_phase_self machine]
    rfl

/-- A program that draws a random number, saved with a key held and loaded into a paused run of it
with another name, seed and rate, which is resumed when the other player is. -/
theorem handle_load_replays_random :
    let image : List UInt8 := [0xC0, 0xFF]
    let program : Program := ⟨"random", image, .ofBytes image, by simp, by decide, rfl⟩
    let renamed : Program := ⟨"chance", image, .ofBytes image, by simp, by decide, rfl⟩
    let source := (((Player.ofSettings ⟨700, some 0⟩).after (.command (.start program 0))).after
      (.command (.press ⟨7⟩))).after (.command .togglePause)
    let pacer := (((start ⟨500, some 1⟩ 0).handle (.start renamed 0) 2).2.handle .togglePause 3).2
    let events : List Player.Event := [.command .togglePause, .cycle, .command .save, .tick]
    ∃ stored loaded, source.save = .ok stored ∧
      pacer.handle (.load stored) 4 = (.done, { pacer with player := loaded }) ∧
      loaded.replies events = source.replies events ∧
      (loaded.afterAll events).save = (source.afterAll events).save := by
  intro image program renamed source pacer events
  have reachable : source.Reachable := .after rfl (.after rfl (.after rfl (.fresh _)))
  have noStart : ∀ event ∈ events, ∀ command, event.command? = some command →
      command.startsRun = false := by
    intro event listed
    simp only [events, List.mem_cons, List.not_mem_nil, or_false] at listed
    rcases listed with rfl | rfl | rfl | rfl <;> rintro _ ⟨⟩ <;> rfl
  have live : source.state ≠ .idle := nofun
  obtain ⟨stored, saved⟩ := Player.exists_save live
  obtain ⟨loaded, handled, -, -, -, -, -, replays, -⟩ :=
    handle_load_replays reachable saved pacer (.inr rfl) rfl 4
  obtain ⟨replies, -, -, again⟩ := replays rfl events noStart
  exact ⟨stored, loaded, saved, handled, replies, again⟩

end Chip8.Pacer
