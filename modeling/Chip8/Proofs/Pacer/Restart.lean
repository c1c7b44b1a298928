import Chip8.Proofs.Pacer.InStep
import Chip8.Proofs.Pacer.Replay

/-!
# A restart forgets the past

If the settings fix the seed, a run depends on nothing but its program. Whatever was done to a pacer
before, and at whatever times: once its run has been stopped, a start leaves it in step with a new
pacer that starts the same program, so that from then on nobody can tell the two apart.
`Pacer.restart_forgets` says this of what is there right after the start and of everything that is
replied and published later.
-/

namespace Chip8.Pacer

variable {pacer first second : Pacer} {seed : UInt64}

/-- A start that finds no run begins one from the seed that the settings fix, and both metronomes
start over. -/
theorem handle_start_of_idle (idle : pacer.player.state = .idle)
    (seeded : pacer.player.settings.seed = some seed) (program : Program) (fresh : UInt64)
    (now : Nat) :
    let started := pacer.handle (.start program fresh) now
    let machine := Player.booted program seed
    started.1 = .done ∧
      started.2.player =
        { pacer.player with
          phase := .running ⟨program, machine⟩
          channels := pacer.player.channels.tell (.ofMachine machine .running) } ∧
      ∀ beat, started.2.metronomeOf beat = (pacer.metronomeOf beat).restart now := by
  intro started machine
  have handled := Player.handle_start_of_idle idle seeded program fresh
  refine ⟨?_, ?_, fun beat => ?_⟩
  · rw [reply_handle, handled]
  · rw [player_handle, handled]
  · rw [metronomeOf_handle (by rw [handled]; exact nofun), handled, idle]
    rfl

/-- A stop leaves no run, and does nothing at all if there was none. -/
theorem handle_stop (pacer : Pacer) (now : Nat) :
    let stopped := pacer.handle .stop now
    stopped.1 = .done ∧ (pacer.player.state = .idle → stopped.2 = pacer) ∧
      stopped.2.player.state = .idle := by
  intro stopped
  refine ⟨reply_handle pacer .stop now, fun idle => ?_, ?_⟩
  · have same : (pacer.player.handle .stop).2 = pacer.player := by
      obtain ⟨⟨settings, phase, channels⟩, cycles, ticks⟩ := pacer
      cases phase with
      | running | paused | halted => cases idle
      | idle => rfl
    show (pacer.handle .stop now).2 = pacer
    rw [handle_of_same_state (congrArg Player.state same), same]
  · rw [player_handle]
    exact pacer.player.state_stop

/-- Pacers that have the same settings, a fixed seed among them, and the same periods: when they
start the same program, they tell the same and go on in step. -/
theorem start_inStep (idle : first.player.state = .idle) (idle' : second.player.state = .idle)
    (settings : first.player.settings = second.player.settings)
    (seeded : first.player.settings.seed = some seed)
    (periods : ∀ beat, (first.metronomeOf beat).period = (second.metronomeOf beat).period)
    (program : Program) (fresh fresh' : UInt64) (now now' : Nat) :
    let started := first.handle (.start program fresh) now
    let started' := second.handle (.start program fresh') now'
    started.1 = .done ∧ started'.1 = .done ∧
      started.2.player.phase = started'.2.player.phase ∧
      started.2.player.channels.latest = started'.2.player.channels.latest ∧
      started.2.InStep now started'.2 now' := by
  intro started started'
  obtain ⟨done, began, restarts⟩ :=
    handle_start_of_idle idle seeded program fresh now
  obtain ⟨done', began', restarts'⟩ :=
    handle_start_of_idle idle' (settings ▸ seeded) program fresh' now'
  refine ⟨done, done', ?_, ?_, ?_, fun beat => ?_⟩
  · rw [began, began']
  · rw [began, began', Channels.latest_tell_ofMachine, Channels.latest_tell_ofMachine]
  · rw [began, began']
    exact ⟨.running rfl _, settings, by simp [seeded]⟩
  · rw [restarts, restarts']
    exact .restart (periods beat) now now'

/-- The periods of a new pacer do not depend on when it was made. -/
theorem period_start (settings : Settings) (made made' : Nat) (beat : Beat) :
    ((start settings made).metronomeOf beat).period =
      ((start settings made').metronomeOf beat).period := by
  -- the periods alone are compared, for the deadlines of the two metronomes differ
  have period (period now : Nat) : (Metronome.start period now).period = max period 1 := rfl
  cases beat <;> simp only [metronomeOf, start, period]

/-- A restart forgets the past. Under settings that fix the seed, whatever was done to a pacer, and
whenever: stopping its run, if it has one, and starting a program leaves it with the run state, the
machine and the latest published values of a new pacer that starts the same program at a time of its
own, and with metronomes in step with those of the new pacer. Whatever is done to both from then on,
at times that are equally far from their starts: they give the same replies, publish the same, are
in the same run state and save the same. -/
theorem restart_forgets {settings : Settings} {seed : UInt64} (seeded : settings.seed = some seed)
    (history : List Operation) (program : Program) (fresh fresh' : UInt64)
    (made made' now now' : Nat) :
    let old := (start settings made).operateAll history
    let stopped := old.handle .stop now
    let restarted := stopped.2.handle (.start program fresh) now
    let new := (start settings made').handle (.start program fresh') now'
    stopped.1 = .done ∧ (old.player.state = .idle → stopped.2 = old) ∧
    restarted.1 = .done ∧ new.1 = .done ∧
    restarted.2.player.phase = new.2.player.phase ∧
    restarted.2.player.channels.latest = new.2.player.channels.latest ∧
    (∀ beat, (restarted.2.metronomeOf beat).InStep now (new.2.metronomeOf beat) now') ∧
    ∀ schedule : List Operation,
      let later := schedule.map (·.delayed now)
      let later' := schedule.map (·.delayed now')
      restarted.2.replies later = new.2.replies later' ∧
      restarted.2.newsAll later = new.2.newsAll later' ∧
      (restarted.2.operateAll later).player.channels =
        restarted.2.player.channels.tellAll (restarted.2.newsAll later) ∧
      (new.2.operateAll later').player.channels =
        new.2.player.channels.tellAll (new.2.newsAll later') ∧
      (restarted.2.operateAll later).player.state = (new.2.operateAll later').player.state ∧
      (restarted.2.operateAll later).player.save = (new.2.operateAll later').player.save := by
  intro old stopped restarted new
  obtain ⟨ended, unused, idle⟩ := handle_stop old now
  have same : stopped.2.player.settings = settings := by
    rw [player_handle, Player.settings_handle, settings_operateAll]
    rfl
  have periods : ∀ beat, (stopped.2.metronomeOf beat).period =
      ((start settings made').metronomeOf beat).period := by
    intro beat
    rw [period_handle, period_operateAll, period_start]
  have idle' : (start settings made').player.state = .idle := rfl
  obtain ⟨done, done', phase, latest, inStep⟩ :=
    start_inStep idle idle' same (same ▸ seeded) periods program fresh fresh' now now'
  refine ⟨ended, unused, done, done', phase, latest, inStep.metronomes, ?_⟩
  intro schedule later later'
  obtain ⟨replies, news⟩ := inStep.replies_eq schedule
  obtain ⟨state, saved⟩ := Player.alike_iff.mp (inStep.operateAll schedule).2.twins.alike
  exact ⟨replies, news, channels_operateAll _ _, channels_operateAll _ _, state, saved⟩

/-- A program that waits for a key is left paused, woken too late and with a key held. The one that
is started next draws a random number, and is replaced later on by the first one. -/
theorem restart_forgets_waiting :
    let settings : Settings := ⟨700, some 5⟩
    let wait : Program := ⟨"wait", [0xF3, 0x0A], .ofBytes [0xF3, 0x0A], by simp, by decide, rfl⟩
    let random : Program := ⟨"random", [0xC0, 0xFF], .ofBytes [0xC0, 0xFF], by simp, by decide, rfl⟩
    let history : List Operation :=
      [.command (.start wait 0) 1000, .wake 500000000, .command (.press ⟨7⟩) 500000001,
        .cycle, .command .togglePause 600000000]
    let schedule : List Operation :=
      [.command (.press ⟨1⟩) 10, .wake 20000000, .command .save 20000001, .command .stop 20000002,
        .command (.start wait 3) 30000000, .wake 40000000]
    let old := (start settings 0).operateAll history
    let restarted := (old.handle .stop 700000000).2.handle (.start random 1) 700000000
    let new := (start settings 3).handle (.start random 2) 4
    let later := schedule.map (·.delayed 700000000)
    let later' := schedule.map (·.delayed 4)
    settings.seed = some 5 ∧ restarted.2.player.phase = new.2.player.phase ∧
      restarted.2.replies later = new.2.replies later' ∧
      restarted.2.newsAll later = new.2.newsAll later' ∧
      (restarted.2.operateAll later).player.save = (new.2.operateAll later').player.save := by
  -- stated of anything that could be done, so that nothing of it is evaluated
  have forgets (settings : Settings) (seeded : settings.seed = some 5) (random : Program)
      (history schedule : List Operation) :
      let old := (start settings 0).operateAll history
      let restarted := (old.handle .stop 700000000).2.handle (.start random 1) 700000000
      let new := (start settings 3).handle (.start random 2) 4
      let later := schedule.map (·.delayed 700000000)
      let later' := schedule.map (·.delayed 4)
      settings.seed = some 5 ∧ restarted.2.player.phase = new.2.player.phase ∧
        restarted.2.replies later = new.2.replies later' ∧
        restarted.2.newsAll later = new.2.newsAll later' ∧
        (restarted.2.operateAll later).player.save = (new.2.operateAll later').player.save := by
    intro old restarted new later later'
    obtain ⟨-, -, -, -, phase, -, -, conduct⟩ :=
      restart_forgets seeded history random 1 2 0 3 700000000 4
    obtain ⟨replies, news, -, -, -, saved⟩ := conduct schedule
    exact ⟨seeded, phase, replies, news, saved⟩
  exact forgets _ rfl _ _ _

end Chip8.Pacer
