import Chip8.Proofs.Pacer.Backlog
import Chip8.Proofs.Timeline.Lockstep
import Chip8.Proofs.Timeline.Pacing

/-!
# Late wake-ups

However late a pacer is woken, and at whatever rate it runs, the wake-up comes to an end: it
performs at most as many beats as fit into the lag that is caught up, in the order of their
deadlines, and leaves none due (`Timeline.works_off_backlog`). The highest rate bounds the number of
cycles whatever the settings.
-/

namespace Chip8

namespace Settings

/-- At most 100000 instruction periods fit into the lag that is caught up. -/
theorem maxLag_div_instructionPeriod_le (settings : Settings) :
    maxLag / settings.instructionPeriod ≤ 100000 := by
  have bounded : settings.effectiveRate ≤ maxRate := Nat.min_le_right _ _
  have positive : 0 < settings.effectiveRate := by
    simp only [effectiveRate, maxRate]
    omega
  have shortest : second / maxRate ≤ settings.instructionPeriod :=
    Nat.div_le_div_left bounded positive
  exact Nat.div_le_div_left shortest (by decide)

end Settings

namespace Timeline

/-- Working off a backlog. Whatever has happened on a timeline whose run is running, a wake-up at
any instant ends. It performs no more cycles and ticks than fit into the lag that is caught up, and
never more than 100001 cycles; it performs them in the order of their deadlines, the tick first if
two are equal; and unless a fault halts the run, both metronomes are left with a deadline in the
future, which is the old one or at most a period away. -/
theorem works_off_backlog (settings : Settings) (events : List Event) (now : Nat)
    (running : ((start settings).afterAll events).pacer.player.state = .running) :
    let pacer := ((start settings).afterAll events).pacer
    let beats := pacer.beats now
    let cycles := (beats.map (·.1)).count .cycle
    let ticks := (beats.map (·.1)).count .tick
    pacer.Drains now beats (pacer.drain now) ∧
      cycles ≤ maxLag / settings.instructionPeriod + 1 ∧ cycles ≤ 100001 ∧
      ticks ≤ maxLag / settings.timerPeriod + 1 ∧
      beats.Pairwise Beat.Precedes ∧
      ((∃ fault, (pacer.catchUp now).player.state = .halted fault) ∨
        ∀ beat, ∃ deadline, (pacer.catchUp now).deadlineOf? beat = some deadline ∧
          now < deadline ∧
          (pacer.deadlineOf? beat = some deadline ∨ deadline ≤ now + settings.period beat)) := by
  intro pacer beats cycles ticks
  have period (beat : Beat) : (pacer.metronomeOf beat).period = settings.period beat := by
    rw [period_afterAll, period_start]
  have bound (beat : Beat) : (beats.map (·.1)).count beat ≤ maxLag / settings.period beat + 1 := by
    rw [← period]
    exact pacer.count_beats_le now beat
  refine ⟨Pacer.drains_iff.mpr ⟨rfl, rfl⟩, bound .cycle, ?_, bound .tick,
    pacer.pairwise_beats now, ?_⟩
  · exact Nat.le_trans (bound .cycle) (Nat.succ_le_succ settings.maxLag_div_instructionPeriod_le)
  · rcases Pacer.state_drain running now with goesOn | ⟨fault, halted⟩
    · refine .inr fun beat => ?_
      have fresh : (start settings).pacer.Lockstep True := Pacer.lockstep_start settings 0
      obtain ⟨left, lockstep, -, -⟩ := lockstep_afterAll fresh events
      have ticks : ((pacer.drain now).metronomeOf beat).deadline?.isSome := by
        rw [Pacer.isSome_deadline?_drain]
        exact (lockstep.ticking_iff beat).mpr (.inl running)
      obtain ⟨deadline, ticking⟩ := Option.isSome_iff_exists.mp ticks
      rw [Pacer.catchUp_of_running running goesOn]
      refine ⟨deadline, ?_, Pacer.lt_deadline?_drain goesOn ticking, ?_⟩
      · rw [Pacer.deadlineOf?_eq, ticking]
      · rw [Pacer.deadlineOf?_eq, ← period]
        exact Pacer.deadline?_drain ticking
    · refine .inl ⟨fault, ?_⟩
      rw [Pacer.catchUp, Pacer.player_followChange, halted]

/-- A run that is woken ten seconds after its start, when all but the last tenth of a second is
lost. -/
theorem works_off_backlog_ten_seconds :
    let program : Program := ⟨"wait", [0xF3, 0x0A], .ofBytes [0xF3, 0x0A], by simp, by decide, rfl⟩
    let started := (start ⟨700, some 0⟩).afterAll [.command (.start program 0)]
    let beats := (started.pacer.beats 10000000000).map (·.1)
    started.pacer.player.state = .running ∧ beats.count .cycle ≤ 71 ∧ beats.count .tick ≤ 7 := by
  intro program started beats
  obtain ⟨-, cycles, -, ticks, -⟩ :=
    works_off_backlog ⟨700, some 0⟩ [.command (.start program 0)] 10000000000 rfl
  exact ⟨rfl, cycles, ticks⟩

end Timeline

end Chip8
