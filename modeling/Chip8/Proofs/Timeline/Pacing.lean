import Chip8.Proofs.Timeline.WakeUps

/-!
# Pacing over whole runs

Since its last start a run has performed no more beats than fit into the time for which it was
running, and exactly as many if it was always woken on time: `Timeline.pacing`, which also says that
these beats are what the player has met. `Pacer.OnPace` is what holds between two events;
`Pacer.Draining` is what holds within a wake-up, where a beat may be due and a fault may already
have halted the run.
-/

namespace Chip8

namespace Settings

/-- The period between two beats. -/
def period (settings : Settings) : Beat → Nat
  | .cycle => settings.instructionPeriod
  | .tick => settings.timerPeriod

/-- Both periods are at least a nanosecond long, so that no metronome has to lengthen them. -/
theorem period_pos (settings : Settings) (beat : Beat) : 0 < settings.period beat := by
  cases beat with
  | cycle =>
      have positive : 0 < settings.effectiveRate := by
        simp only [effectiveRate, maxRate]
        omega
      have bounded : settings.effectiveRate ≤ second := by
        simp only [effectiveRate, maxRate, second]
        omega
      exact Nat.div_pos bounded positive
  | tick =>
      show 0 < second / timerRate
      decide

end Settings

namespace Pacer

/-- The metronomes of a pacer within a wake-up, when some beats have been performed since the start
of the run. Both are on pace; and if a run that was always punctual halts, then neither of them has
a beat due that would be missing. -/
structure Draining (pacer : Pacer) (now active : Nat) (performed : List Beat) (punctual : Prop) :
    Prop where
  ticking : ∀ beat, ∃ deadline, (pacer.metronomeOf beat).deadline? = some deadline
  onPace : ∀ beat,
    (pacer.metronomeOf beat).OnPace now active (performed.count beat) punctual
  ahead : punctual → pacer.player.state ≠ .running → ∀ beat, 0 < (pacer.metronomeOf beat).left now

/-- The metronomes of a pacer between two events, when some beats have been performed since the
start of the run. They tick exactly while the run is running, and both are on pace. What was
performed is still known when the run has ended. -/
structure OnPace (pacer : Pacer) (settings : Settings) (now active : Nat) (performed : List Beat)
    (punctual : Prop) : Prop where
  period : ∀ beat, (pacer.metronomeOf beat).period = settings.period beat
  ticking_iff : pacer.player.state ≠ .idle → ∀ beat,
    (∃ deadline, (pacer.metronomeOf beat).deadline? = some deadline) ↔
      pacer.player.state = .running
  onPace : pacer.player.state ≠ .idle → ∀ beat,
    (pacer.metronomeOf beat).OnPace now active (performed.count beat) punctual ∧
      (punctual → 0 < (pacer.metronomeOf beat).left now)
  total : ∀ beat, performed.count beat * settings.period beat ≤ active ∧
    (punctual → performed.count beat = active / settings.period beat)

variable {pacer : Pacer} {settings : Settings} {now later active : Nat} {performed : List Beat}
  {punctual punctual' : Prop}

/-- When a run that was always punctual performs a cycle, the tick due at the same time has been
performed before, so that nothing is missing if the cycle halts the run. -/
theorem Draining.ahead_of_cycle (draining : pacer.Draining now active performed punctual)
    (holds : punctual) (next : pacer.nextBeat? now = some .cycle) (beat : Beat) :
    0 < ((pacer.perform now .cycle).metronomeOf beat).left now := by
  obtain ⟨deadline, upcoming, due⟩ := nextBeat?_eq_some_iff.mp next
  obtain ⟨-, ticking, first⟩ := of_upcoming? upcoming
  rw [metronomeOf_perform]
  cases beat with
  | cycle =>
      rw [if_pos rfl]
      exact (draining.onPace .cycle).left_consume_pos holds ticking due
  | tick =>
      obtain ⟨later, tickEq⟩ := draining.ticking .tick
      have strict := (first .tick later tickEq).2 rfl rfl
      have inTime := ((draining.onPace .cycle).exact holds).1
      rw [Metronome.left_of_deadline? ticking] at inTime
      rw [if_neg (by decide), Metronome.left_of_deadline? tickEq]
      omega

/-- One beat is performed. -/
theorem Draining.perform {beat : Beat} (draining : pacer.Draining now active performed punctual)
    (next : pacer.nextBeat? now = some beat) :
    (pacer.perform now beat).Draining now active (performed ++ [beat]) punctual := by
  obtain ⟨deadline, upcoming, due⟩ := nextBeat?_eq_some_iff.mp next
  obtain ⟨running, ticking, -⟩ := of_upcoming? upcoming
  constructor
  case ticking =>
    intro other
    rw [metronomeOf_perform]
    split
    · rename_i same
      subst same
      exact ⟨_, by rw [Metronome.consume_of_due ticking due]; rfl⟩
    · exact draining.ticking other
  case onPace =>
    intro other
    rw [metronomeOf_perform, List.count_append]
    split
    · rename_i same
      subst same
      simpa using (draining.onPace other).consume ticking due
    · rename_i different
      simpa [Ne.symm different] using draining.onPace other
  case ahead =>
    intro holds halted
    cases beat with
    | tick =>
        -- a tick does not end a run
        rw [player_perform] at halted
        exact absurd ((Player.state_tick pacer.player).trans running) halted
    | cycle => exact draining.ahead_of_cycle holds next

/-- Draining performs the listed beats and leaves the metronomes on pace. -/
theorem Draining.drain (draining : pacer.Draining now active performed punctual) :
    (pacer.drain now).Draining now active (performed ++ (pacer.beats now).map (·.1)) punctual := by
  fun_induction Pacer.drain pacer now generalizing performed with
  | case1 pacer none =>
      rw [beats_of_none none, List.map_nil, List.append_nil]
      exact draining
  | case2 pacer beat next ih =>
      obtain ⟨deadline, upcoming, due⟩ := nextBeat?_eq_some_iff.mp next
      rw [beats_of_nextBeat? upcoming due, List.map_cons, ← List.singleton_append,
        ← List.append_assoc]
      exact ih (draining.perform next)

/-- When nothing is due any more, the metronomes follow what has become of the run. -/
theorem Draining.followChange (draining : pacer.Draining now active performed punctual)
    (nothingDue : punctual → ∀ deadline, pacer.deadline? = some deadline → now < deadline)
    (period : ∀ beat, (pacer.metronomeOf beat).period = settings.period beat) :
    (pacer.followChange .running now).OnPace settings now active performed punctual := by
  have ahead : punctual → ∀ beat, 0 < (pacer.metronomeOf beat).left now := by
    intro holds beat
    by_cases running : pacer.player.state = .running
    · obtain ⟨deadline, ticking⟩ := draining.ticking beat
      obtain ⟨earliest, next, first⟩ := exists_deadline?_le running ticking
      have later := nothingDue holds earliest next
      rw [Metronome.left_of_deadline? ticking]
      omega
    · exact draining.ahead holds running beat
  constructor
  case period =>
    intro beat
    rw [metronomeOf_followChange, Metronome.period_follow, period]
  case ticking_iff =>
    intro _ beat
    rw [metronomeOf_followChange, player_followChange]
    by_cases running : pacer.player.state = .running
    · rw [running]
      exact iff_of_true (draining.ticking beat) rfl
    · rw [Metronome.deadline?_follow running]
      exact iff_of_false (by simp) running
  case onPace =>
    intro _ beat
    rw [metronomeOf_followChange]
    exact ⟨(draining.onPace beat).follow fun _ => .inl rfl,
      fun holds => Metronome.left_follow_pos (ahead holds beat)⟩
  case total =>
    intro beat
    obtain ⟨bound, exact⟩ := (draining.onPace beat).total
    rw [← period beat]
    exact ⟨bound, fun holds => exact holds (ahead holds beat)⟩

namespace OnPace

/-- A run that was not always punctual is on pace as well. -/
theorem weaken (onPace : pacer.OnPace settings now active performed punctual)
    (still : punctual' → punctual) : pacer.OnPace settings now active performed punctual' where
  period := onPace.period
  ticking_iff := onPace.ticking_iff
  onPace := by
    intro begun beat
    obtain ⟨kept, ahead⟩ := onPace.onPace begun beat
    exact ⟨kept.congr rfl rfl still, fun holds => ahead (still holds)⟩
  total := fun beat =>
    ⟨(onPace.total beat).1, fun holds => (onPace.total beat).2 (still holds)⟩

/-- Time in which the run is not running changes nothing. -/
theorem rest (onPace : pacer.OnPace settings now active performed punctual)
    (resting : pacer.player.state ≠ .running) :
    pacer.OnPace settings later active performed punctual where
  period := onPace.period
  ticking_iff := onPace.ticking_iff
  onPace := by
    intro begun beat
    obtain ⟨kept, ahead⟩ := onPace.onPace begun beat
    have frozen : (pacer.metronomeOf beat).deadline? = none := by
      cases deadlineEq : (pacer.metronomeOf beat).deadline? with
      | none => rfl
      | some deadline => exact absurd ((onPace.ticking_iff begun beat).mp ⟨_, deadlineEq⟩) resting
    have same : (pacer.metronomeOf beat).left later = (pacer.metronomeOf beat).left now :=
      Metronome.left_of_frozen frozen
    exact ⟨kept.congr rfl same id, fun holds => same ▸ ahead holds⟩
  total := onPace.total

/-- Between two events a run that was always punctual has no deadline that has passed. -/
theorem lt_of_deadline? {deadline : Nat}
    (onPace : pacer.OnPace settings now active performed punctual) (holds : punctual)
    (next : pacer.deadline? = some deadline) : now < deadline := by
  have running := running_of_deadline? next
  obtain ⟨⟨beat, _⟩, upcoming, rfl⟩ := Option.map_eq_some_iff.mp (deadline?_eq pacer ▸ next)
  have ahead := (onPace.onPace (by rw [running]; exact nofun) beat).2 holds
  rw [Metronome.left_of_deadline? (of_upcoming? upcoming).2.1] at ahead
  dsimp only
  omega

/-- Time in which the run is running, up to an instant at which nothing is overdue if the run is to
stay punctual. -/
theorem draining (onPace : pacer.OnPace settings now active performed punctual)
    (running : pacer.player.state = .running) (ordered : now ≤ later)
    (inTime : punctual' →
      punctual ∧ ∀ deadline, pacer.deadline? = some deadline → later ≤ deadline) :
    pacer.Draining later (active + (later - now)) performed punctual' := by
  have begun : pacer.player.state ≠ .idle := by rw [running]; exact nofun
  refine ⟨fun beat => (onPace.ticking_iff begun beat).mpr running, fun beat => ?_,
    fun _ resting => absurd running resting⟩
  obtain ⟨deadline, ticking⟩ := (onPace.ticking_iff begun beat).mpr running
  refine (onPace.onPace begun beat).1.pass ticking ordered fun still => ?_
  obtain ⟨was, reached⟩ := inTime still
  obtain ⟨earliest, next, first⟩ := exists_deadline?_le running ticking
  exact ⟨was, Nat.le_trans (reached earliest next) first⟩

/-- Time passes, and the pacer is not woken. -/
theorem pass (onPace : pacer.OnPace settings now active performed punctual) (ordered : now ≤ later)
    (inTime : punctual' →
      punctual ∧ ∀ deadline, pacer.deadline? = some deadline → later < deadline) :
    pacer.OnPace settings later (active + pacer.elapsed now later) performed punctual' := by
  by_cases running : pacer.player.state = .running
  · rw [elapsed, if_pos running]
    have draining := onPace.draining running ordered fun still =>
      ⟨(inTime still).1, fun deadline next => Nat.le_of_lt ((inTime still).2 deadline next)⟩
    have same : pacer.followChange .running later = pacer := by
      simp only [followChange, running]
    exact same ▸ draining.followChange (fun still => (inTime still).2) onPace.period
  · rw [elapsed, if_neg running, Nat.add_zero]
    exact (onPace.rest running).weaken fun still => (inTime still).1

/-- Time passes, and the pacer is woken at the end. -/
theorem catchUp (onPace : pacer.OnPace settings now active performed punctual)
    (ordered : now ≤ later)
    (inTime : punctual' →
      punctual ∧ ∀ deadline, pacer.deadline? = some deadline → later ≤ deadline) :
    (pacer.catchUp later).OnPace settings later (active + pacer.elapsed now later)
      (performed ++ (pacer.beats later).map (·.1)) punctual' := by
  by_cases running : pacer.player.state = .running
  · rw [elapsed, if_pos running, Pacer.catchUp, running]
    refine (onPace.draining running ordered inTime).drain.followChange ?_ ?_
    · exact fun _ => nextBeat?_eq_none_iff.mp (nextBeat?_drain pacer later)
    · intro beat
      rw [period_drain, onPace.period]
  · rw [elapsed, if_neg running, Nat.add_zero, catchUp_of_not_running running,
      beats_of_none (nextBeat?_of_not_running running), List.map_nil, List.append_nil]
    exact (onPace.rest running).weaken fun still => (inTime still).1

/-- Time passes, and the pacer is woken at each deadline: that is always on time. -/
theorem wakeUpsUntil {finish : Nat}
    (onPace : pacer.OnPace settings now active performed punctual) (ordered : now ≤ finish) :
    (pacer.catchUpAll (pacer.wakeUpsUntil now finish)).OnPace settings finish
      (active + pacer.activeTime now finish (pacer.wakeUpsUntil now finish))
      (performed ++ (pacer.beatsAll (pacer.wakeUpsUntil now finish)).map (·.1)) punctual := by
  fun_induction Pacer.wakeUpsUntil pacer now finish generalizing active performed with
  | case1 pacer now none =>
      rw [beatsAll, List.map_nil, List.append_nil]
      exact onPace.pass ordered fun holds => ⟨holds, fun _ next => by cases none.symm.trans next⟩
  | case2 pacer now deadline next reached ih =>
      have woken := onPace.catchUp (Nat.le_max_left now deadline) fun holds => ⟨holds, by
        intro other otherNext
        cases next.symm.trans otherNext
        have := onPace.lt_of_deadline? holds next
        omega⟩
      have finished := ih woken (by omega)
      rw [List.append_assoc, ← List.map_append, Nat.add_assoc] at finished
      exact finished
  | case3 pacer now deadline next reached =>
      rw [beatsAll, List.map_nil, List.append_nil]
      refine onPace.pass ordered fun holds => ⟨holds, fun other otherNext => ?_⟩
      cases next.symm.trans otherNext
      omega

/-- A command other than an accepted start. -/
theorem handle {command : Command} (onPace : pacer.OnPace settings now active performed punctual)
    (noStart : pacer.player.state = .idle → (pacer.player.handle command).2.state = .idle) :
    (pacer.handle command now).2.OnPace settings now active performed punctual := by
  have begun : (pacer.player.handle command).2.state ≠ .idle → pacer.player.state ≠ .idle :=
    fun goesOn idle => goesOn (noStart idle)
  have goesOn : (pacer.player.handle command).2.state = .running →
      pacer.player.state = .running ∨ pacer.player.state = .paused := by
    intro running
    obtain same | idle | ⟨-, paused⟩ | ⟨resumed, -⟩ | ⟨idle, -⟩ := pacer.player.state_handle command
    · exact .inl (same ▸ running)
    · cases running.symm.trans idle
    · cases running.symm.trans paused
    · exact .inr resumed
    · cases running.symm.trans (noStart idle)
  constructor
  case period =>
    intro beat
    rw [period_handle, onPace.period]
  case ticking_iff =>
    intro still beat
    rw [player_handle] at still ⊢
    rw [metronomeOf_handle still]
    exact Metronome.ticking_follow_iff (onPace.ticking_iff (begun still) beat) goesOn
  case onPace =>
    intro still beat
    rw [player_handle] at still
    rw [metronomeOf_handle still]
    obtain ⟨kept, ahead⟩ := onPace.onPace (begun still) beat
    exact ⟨kept.follow goesOn, fun holds => Metronome.left_follow_pos (ahead holds)⟩
  case total => exact onPace.total

/-- An accepted start begins with nothing performed. -/
theorem start {command : Command} (idle : pacer.player.state = .idle)
    (running : (pacer.player.handle command).2.state = .running)
    (period : ∀ beat, (pacer.metronomeOf beat).period = settings.period beat) :
    (pacer.handle command now).2.OnPace settings now 0 [] punctual := by
  have restarted : ∀ beat, (pacer.handle command now).2.metronomeOf beat =
      (pacer.metronomeOf beat).restart now := by
    intro beat
    rw [metronomeOf_handle (by rw [running]; exact nofun), idle, running]
    rfl
  constructor
  case period =>
    intro beat
    rw [period_handle, period]
  case ticking_iff =>
    intro _ beat
    rw [restarted, player_handle]
    exact iff_of_true ⟨_, rfl⟩ running
  case onPace =>
    intro _ beat
    rw [restarted]
    refine ⟨.restart, fun _ => ?_⟩
    rw [Metronome.left_restart]
    exact Int.natCast_pos.mpr (pacer.metronomeOf beat).period_pos
  case total =>
    intro beat
    simp

end OnPace

end Pacer

namespace Timeline

variable {timeline : Timeline} {settings : Settings} {active : Nat} {performed : List Beat}
  {punctual punctual' : Prop}

theorem period_start (settings : Settings) (beat : Beat) :
    ((start settings).pacer.metronomeOf beat).period = settings.period beat := by
  have := settings.period_pos beat
  cases beat <;> exact Nat.max_eq_left this

/-- Every event but an accepted start keeps a run on pace. -/
theorem onPace_after {event : Event}
    (onPace : timeline.pacer.OnPace settings timeline.now active performed punctual)
    (noStart : ¬timeline.Starts event)
    (inTime : punctual' → punctual ∧ timeline.Punctual event) :
    (timeline.after event).pacer.OnPace settings (timeline.after event).now
      (active +
        timeline.pacer.activeTime timeline.now (timeline.after event).now
          (timeline.wakeUps event))
      (performed ++ (timeline.pacer.beatsAll (timeline.wakeUps event)).map (·.1)) punctual' := by
  cases event with
  | command command =>
      have idle_handle : timeline.pacer.player.state = .idle →
          (timeline.pacer.player.handle command).2.state = .idle := by
        intro idle
        obtain same | stopped | ⟨running, -⟩ | ⟨paused, -⟩ | ⟨-, -, program, fresh, rfl, done⟩ :=
          timeline.pacer.player.state_handle command
        · exact same.trans idle
        · exact stopped
        · cases idle.symm.trans running
        · cases idle.symm.trans paused
        · exact absurd ((timeline.pacer.reply_handle _ timeline.now).trans done) noStart
      have handled := (onPace.handle idle_handle).weaken fun still => (inTime still).1
      simpa [wakeUps, Pacer.activeTime, Pacer.beatsAll, after, Timeline.handle] using handled
  | advance duration =>
      have woken := onPace.wakeUpsUntil (Nat.le_add_right timeline.now duration)
      rw [← Pacer.runUntil_eq_catchUpAll] at woken
      exact woken.weaken fun still => (inTime still).1
  | oversleep duration =>
      have woken := onPace.catchUp (Nat.le_add_right timeline.now duration) inTime
      simpa [wakeUps, Pacer.activeTime, Pacer.beatsAll, after, oversleep] using woken
  | jump duration =>
      have passed := onPace.pass (Nat.le_add_right timeline.now duration) inTime
      simpa [wakeUps, Pacer.activeTime, Pacer.beatsAll, after, jump] using passed

/-- Events without an accepted start keep a run on pace. -/
theorem onPace_afterAll {events : List Event}
    (onPace : timeline.pacer.OnPace settings timeline.now active performed punctual)
    (noStart : timeline.Throughout (fun timeline event => ¬timeline.Starts event) events) :
    (timeline.afterAll events).pacer.OnPace settings (timeline.afterAll events).now
      (active + timeline.activeTime events) (performed ++ timeline.performed events)
      (punctual ∧ timeline.Throughout Punctual events) := by
  induction events generalizing timeline active performed punctual with
  | nil =>
      rw [Timeline.performed, List.append_nil]
      exact onPace.weaken fun holds => holds.1
  | cons event rest ih =>
      obtain ⟨first, others⟩ := noStart
      have moved := onPace_after onPace first (id : punctual ∧ timeline.Punctual event → _)
      have next := ih moved others
      rw [List.append_assoc, Nat.add_assoc] at next
      exact next.weaken fun ⟨holds, here, later⟩ => ⟨⟨holds, here⟩, later⟩

/-- Pacing over whole runs. After any history let a start be accepted, and let anything happen then
but another accepted start: pauses, keys, stored states, refused commands, a fault that halts the
run, and time that passes with wake-ups on time, late or not at all. The player is then what the
commands and the performed cycles and ticks have made of it. The cycles and ticks performed since
the start fit into the time for which the run was running. If no deadline passed without a wake-up,
they are as many as fit. -/
theorem pacing (settings : Settings) (before since : List Event) (program : Program)
    (fresh : UInt64)
    (accepted : ((start settings).afterAll before).Starts (.command (.start program fresh)))
    (last : (((start settings).afterAll before).after (.command (.start program fresh))).Throughout
      (fun timeline event => ¬timeline.Starts event) since) :
    let started := ((start settings).afterAll before).after (.command (.start program fresh))
    let active := started.activeTime since
    let cycles := (started.performed since).count .cycle
    let ticks := (started.performed since).count .tick
    ((started.afterAll since).pacer.player =
        started.pacer.player.afterAll (started.happened since) ∧
      (started.happened since).filterMap Player.Event.command? =
        since.filterMap Event.command? ∧
      (started.happened since).filterMap Player.Event.beat? = started.performed since) ∧
    cycles * settings.instructionPeriod ≤ active ∧ ticks * settings.timerPeriod ≤ active ∧
      (started.Throughout Punctual since →
        cycles = active / settings.instructionPeriod ∧ ticks = active / settings.timerPeriod) := by
  intro started active cycles ticks
  obtain ⟨idle, running⟩ :=
    Player.state_of_started ((Pacer.reply_handle _ _ _).symm.trans accepted)
  have begun : started.pacer.OnPace settings started.now 0 [] True :=
    .start idle running fun beat => by rw [period_afterAll, period_start]
  have onPace := onPace_afterAll begun last
  rw [Nat.zero_add, List.nil_append] at onPace
  obtain ⟨cycleBound, cycleExact⟩ := onPace.total .cycle
  obtain ⟨tickBound, tickExact⟩ := onPace.total .tick
  refine ⟨⟨started.player_afterAll since, started.filterMap_command?_happened since,
    started.filterMap_beat?_happened since⟩, cycleBound, tickBound, fun punctual => ?_⟩
  exact ⟨cycleExact ⟨trivial, punctual⟩, tickExact ⟨trivial, punctual⟩⟩

/-- A run that is first left alone and then woken exactly when its first cycle is due. -/
theorem pacing_first_cycle :
    let program : Program := ⟨"wait", [0xF3, 0x0A], .ofBytes [0xF3, 0x0A], by simp, by decide, rfl⟩
    let started := ((start ⟨700, some 0⟩).afterAll []).after (.command (.start program 0))
    let since : List Event := [.jump 1000000, .oversleep 428571]
    (started.performed since).count .cycle = 1 ∧ (started.performed since).count .tick = 0 := by
  intro program started since
  -- stated of any timeline, so that nothing is evaluated but what the events ask for
  have active_since (timeline : Timeline) (running : timeline.pacer.player.state = .running) :
      timeline.activeTime since = 1428571 := by
    simp [since, activeTime, wakeUps, after, jump, oversleep, Pacer.activeTime, Pacer.elapsed,
      running, Nat.add_assoc]
  have punctual_since (timeline : Timeline) (origin : timeline.now = 0)
      (next : timeline.pacer.deadline? = some 1428571) :
      timeline.Throughout Punctual since := by
    simp [since, Throughout, Punctual, after, jump, origin, next]
  have next : started.pacer.deadline? = some 1428571 := by decide
  obtain ⟨-, -, -, exact⟩ := pacing ⟨700, some 0⟩ [] since program 0 rfl ⟨id, id, trivial⟩
  have counts : (started.performed since).count .cycle =
        started.activeTime since / Settings.instructionPeriod ⟨700, some 0⟩ ∧
      (started.performed since).count .tick =
        started.activeTime since / Settings.timerPeriod ⟨700, some 0⟩ :=
    exact (punctual_since started rfl next)
  rw [active_since started rfl] at counts
  exact counts

end Timeline

end Chip8
