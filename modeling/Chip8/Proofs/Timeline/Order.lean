import Chip8.Proofs.Timeline.Pacing

/-!
# The order of beats

A run that is always woken on time performs its beats in an order that the two periods determine:
first the beat whose period ends first, counted in the time for which the run was running, and a
timer tick before a cycle if both end at once. `Settings.beats` is that order. How much time has
passed then says not only how many beats a run has performed but also which ones, and in which
order: `Timeline.OnTime.performed_eq`.
-/

namespace Chip8

/-- There are no beats but cycles and ticks. -/
theorem Beat.length_eq (beats : List Beat) :
    beats.length = beats.count .cycle + beats.count .tick := by
  induction beats with
  | nil => rfl
  | cons beat rest ih =>
      cases beat <;> simp only [List.length_cons, List.count_cons, ih] <;> simp <;> omega

namespace Settings

/-- The beat that is due first behind some others. -/
def nextBeat (settings : Settings) (performed : List Beat) : Beat :=
  if (performed.count .tick + 1) * settings.period .tick ≤
      (performed.count .cycle + 1) * settings.period .cycle then .tick
  else .cycle

/-- The first beats of a run, in order. -/
def beats (settings : Settings) : Nat → List Beat
  | 0 => []
  | count + 1 => settings.beats count ++ [settings.nextBeat (settings.beats count)]

/-- Some beats are the first ones of a run. -/
def InOrder (settings : Settings) (performed : List Beat) : Prop :=
  performed = settings.beats performed.length

theorem InOrder.append {settings : Settings} {performed : List Beat}
    (inOrder : settings.InOrder performed) :
    settings.InOrder (performed ++ [settings.nextBeat performed]) := by
  rw [InOrder, List.length_append, List.length_singleton, beats, ← inOrder]

end Settings

namespace Pacer

variable {pacer : Pacer} {settings : Settings} {now later active : Nat} {performed : List Beat}
  {beat : Beat} {punctual punctual' : Prop}

/-- A run that is always punctual performs the beat whose period ends first. -/
theorem Draining.nextBeat_eq (draining : pacer.Draining now active performed punctual)
    (holds : punctual) (period : ∀ beat, (pacer.metronomeOf beat).period = settings.period beat)
    (next : pacer.nextBeat? now = some beat) : beat = settings.nextBeat performed := by
  obtain ⟨deadline, upcoming, -⟩ := nextBeat?_eq_some_iff.mp next
  obtain ⟨-, ticking, first⟩ := of_upcoming? upcoming
  -- the time of a deadline is the time at which the period ends
  have ends (other : Beat) {later : Nat}
      (laterEq : (pacer.metronomeOf other).deadline? = some later) :
      (((performed.count other + 1) * settings.period other : Nat) : Int) =
        later - now + active := by
    have exact := ((draining.onPace other).exact holds).2
    rw [period, Metronome.left_of_deadline? laterEq] at exact
    rw [Nat.add_one_mul, Int.natCast_add]
    exact exact
  have here := ends beat ticking
  cases beat with
  | tick =>
      obtain ⟨cycle, cycleEq⟩ := draining.ticking .cycle
      have there := ends .cycle cycleEq
      have order := (first .cycle cycle cycleEq).1
      exact (if_pos (by omega)).symm
  | cycle =>
      obtain ⟨tick, tickEq⟩ := draining.ticking .tick
      have there := ends .tick tickEq
      have order := (first .tick tick tickEq).2 rfl rfl
      exact (if_neg (by omega)).symm

/-- Draining goes on in order. -/
theorem Draining.inOrder_drain (draining : pacer.Draining now active performed punctual)
    (holds : punctual) (period : ∀ beat, (pacer.metronomeOf beat).period = settings.period beat)
    (inOrder : settings.InOrder performed) :
    settings.InOrder (performed ++ (pacer.beats now).map (·.1)) := by
  fun_induction Pacer.drain pacer now generalizing performed with
  | case1 pacer none =>
      rw [beats_of_none none, List.map_nil, List.append_nil]
      exact inOrder
  | case2 pacer beat next ih =>
      obtain ⟨deadline, upcoming, due⟩ := nextBeat?_eq_some_iff.mp next
      rw [beats_of_nextBeat? upcoming due, List.map_cons, ← List.singleton_append,
        ← List.append_assoc]
      apply ih (draining.perform next)
      · intro other
        rw [period_perform, period]
      · rw [draining.nextBeat_eq holds period next]
        exact inOrder.append

namespace OnPace

/-- A wake-up in time goes on in order. -/
theorem inOrder_catchUp (onPace : pacer.OnPace settings now active performed punctual)
    (holds : punctual) (inOrder : settings.InOrder performed) (ordered : now ≤ later)
    (inTime : ∀ deadline, pacer.deadline? = some deadline → later ≤ deadline) :
    settings.InOrder (performed ++ (pacer.beats later).map (·.1)) := by
  by_cases running : pacer.player.state = .running
  · have draining := onPace.draining running ordered fun still : punctual => ⟨still, inTime⟩
    exact draining.inOrder_drain holds onPace.period inOrder
  · rw [beats_of_none (nextBeat?_of_not_running running), List.map_nil, List.append_nil]
    exact inOrder

/-- Wake-ups at each deadline go on in order. -/
theorem inOrder_wakeUpsUntil {finish : Nat}
    (onPace : pacer.OnPace settings now active performed punctual) (holds : punctual)
    (inOrder : settings.InOrder performed) :
    settings.InOrder
      (performed ++ (pacer.beatsAll (pacer.wakeUpsUntil now finish)).map (·.1)) := by
  fun_induction Pacer.wakeUpsUntil pacer now finish generalizing active performed with
  | case1 pacer now none | case3 pacer now deadline next reached =>
      rw [beatsAll, List.map_nil, List.append_nil]
      exact inOrder
  | case2 pacer now deadline next reached ih =>
      have inTime : ∀ other, pacer.deadline? = some other → max now deadline ≤ other := by
        intro other otherNext
        cases next.symm.trans otherNext
        have := onPace.lt_of_deadline? holds next
        omega
      have ordered := Nat.le_max_left now deadline
      have finished := ih (onPace.catchUp ordered fun still : punctual => ⟨still, inTime⟩)
        (onPace.inOrder_catchUp holds inOrder ordered inTime)
      rw [List.append_assoc, ← List.map_append] at finished
      exact finished

/-- How many beats a run has performed that was always punctual. -/
theorem length_performed (onPace : pacer.OnPace settings now active performed punctual)
    (holds : punctual) :
    performed.length = active / settings.period .cycle + active / settings.period .tick := by
  rw [Beat.length_eq, (onPace.total .cycle).2 holds, (onPace.total .tick).2 holds]

end OnPace

end Pacer

namespace Timeline

variable {timeline : Timeline} {settings : Settings} {active : Nat} {performed : List Beat}
  {event : Event} {events : List Event}

/-- A run that was always woken on time, when it was running for some time and has performed some
beats since its start. -/
structure OnTime (timeline : Timeline) (settings : Settings) (active : Nat)
    (performed : List Beat) : Prop where
  onPace : timeline.pacer.OnPace settings timeline.now active performed True
  inOrder : settings.InOrder performed

namespace OnTime

/-- What a run has performed that was always woken on time is a matter of the time for which it was
running. -/
theorem performed_eq (onTime : timeline.OnTime settings active performed) :
    performed =
      settings.beats (active / settings.period .cycle + active / settings.period .tick) := by
  rw [← onTime.onPace.length_performed trivial]
  exact onTime.inOrder

/-- A start that is accepted begins a run with nothing performed. -/
theorem start {before : List Event} {program : Program} {fresh : UInt64}
    (accepted : ((start settings).afterAll before).Starts (.command (.start program fresh))) :
    (((Timeline.start settings).afterAll before).after
      (.command (.start program fresh))).OnTime settings 0 [] := by
  obtain ⟨idle, running⟩ :=
    Player.state_of_started ((Pacer.reply_handle _ _ _).symm.trans accepted)
  exact ⟨.start idle running fun beat => by rw [period_afterAll, period_start], rfl⟩

/-- A run that is woken on time goes on in order until the next start. -/
theorem after (onTime : timeline.OnTime settings active performed)
    (noStart : ¬timeline.Starts event) (inTime : timeline.Punctual event) :
    (timeline.after event).OnTime settings
      (active +
        timeline.pacer.activeTime timeline.now (timeline.after event).now (timeline.wakeUps event))
      (performed ++ (timeline.pacer.beatsAll (timeline.wakeUps event)).map (·.1)) where
  onPace := onPace_after onTime.onPace noStart fun holds => ⟨holds, inTime⟩
  inOrder := by
    cases event with
    | command command | jump duration =>
        rw [wakeUps, Pacer.beatsAll, List.map_nil, List.append_nil]
        exact onTime.inOrder
    | advance duration => exact onTime.onPace.inOrder_wakeUpsUntil trivial onTime.inOrder
    | oversleep duration =>
        have woken := onTime.onPace.inOrder_catchUp trivial onTime.inOrder
          (Nat.le_add_right _ duration) inTime
        simpa [wakeUps, Pacer.beatsAll] using woken

/-- The whole course of a run that is always woken on time is in order. -/
theorem afterAll (onTime : timeline.OnTime settings active performed)
    (inTime : timeline.Throughout
      (fun timeline event => ¬timeline.Starts event ∧ timeline.Punctual event) events) :
    (timeline.afterAll events).OnTime settings (active + timeline.activeTime events)
      (performed ++ timeline.performed events) := by
  induction events generalizing timeline active performed with
  | nil =>
      rw [Timeline.performed, List.append_nil]
      exact onTime
  | cons event rest ih =>
      obtain ⟨⟨noStart, here⟩, later⟩ := inTime
      have next := ih (onTime.after noStart here) later
      rw [List.append_assoc, Nat.add_assoc] at next
      exact next

end OnTime

end Timeline

end Chip8
