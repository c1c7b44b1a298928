import Chip8.Proofs.Pacer.Steps

/-!
# Waking late

A pacer that is woken once, and not too late, performs the same beats as one that is woken any
number of times until then: `Pacer.catchUpAll_of_withinLag`. As long as a metronome drops nothing,
its next deadline does not depend on the time at which a beat is consumed, so that performing the
beats due at an early time is the beginning of performing those due at a late one.
-/

namespace Chip8

namespace Metronome

variable {metronome : Metronome} {now early late deadline : Nat}

/-- It makes no difference when a beat is consumed, as long as nothing is dropped. -/
theorem consume_eq_consume (next : metronome.deadline? = some deadline) (due : deadline ≤ early)
    (ordered : early ≤ late) (inTime : late - deadline ≤ maxLag) :
    metronome.consume early = metronome.consume late := by
  rw [consume_of_due next due, consume_of_due next (Nat.le_trans due ordered),
    following_of_withinLag inTime, following_of_withinLag (by omega)]

end Metronome

namespace Pacer

/-- Wake a pacer at each of the listed times, in their order. -/
def catchUpAll (pacer : Pacer) (times : List Nat) : Pacer :=
  times.foldl catchUp pacer

/-- The beats that are performed when a pacer is woken at each of the listed times. -/
def beatsAll (pacer : Pacer) : List Nat → List (Beat × Nat)
  | [] => []
  | time :: rest => pacer.beats time ++ (pacer.catchUp time).beatsAll rest

/-- At a time neither metronome is so late that it drops beats. -/
def WithinLag (pacer : Pacer) (now : Nat) : Prop :=
  ∀ beat deadline, pacer.deadlineOf? beat = some deadline → now - deadline ≤ maxLag

/-- What repeated wake-ups do to the player is what the listed beats do to it, in their order. -/
theorem player_catchUpAll (pacer : Pacer) (times : List Nat) :
    (pacer.catchUpAll times).player =
      pacer.player.afterAll ((pacer.beatsAll times).map (·.1.event)) := by
  induction times generalizing pacer with
  | nil => rfl
  | cons time rest ih =>
      rw [beatsAll, List.map_append, Player.afterAll_append, ← player_catchUp]
      exact ih (pacer.catchUp time)

@[simp] theorem period_catchUpAll (pacer : Pacer) (times : List Nat) (beat : Beat) :
    ((pacer.catchUpAll times).metronomeOf beat).period = (pacer.metronomeOf beat).period := by
  induction times generalizing pacer with
  | nil => rfl
  | cons time rest ih => exact (ih (pacer.catchUp time)).trans (pacer.period_catchUp time beat)

variable {pacer : Pacer} {early late : Nat} {beat : Beat}

/-- A beat that is performed early enough is one that no metronome drops. -/
theorem WithinLag.exists_due (inTime : pacer.WithinLag late)
    (next : pacer.nextBeat? early = some beat) :
    ∃ deadline, (pacer.metronomeOf beat).deadline? = some deadline ∧ deadline ≤ early ∧
      late - deadline ≤ maxLag := by
  obtain ⟨deadline, upcoming, due⟩ := nextBeat?_eq_some_iff.mp next
  have ticking := (of_upcoming? upcoming).2.1
  exact ⟨deadline, ticking, due, inTime beat deadline (by rw [deadlineOf?_eq, ticking])⟩

/-- Performing a beat, early or late, leaves a pacer within the lag. -/
theorem WithinLag.perform (inTime : pacer.WithinLag late) (ordered : early ≤ late)
    (next : pacer.nextBeat? early = some beat) : (pacer.perform early beat).WithinLag late := by
  obtain ⟨deadline, ticking, due, lag⟩ := inTime.exists_due next
  intro other later laterEq
  rw [deadlineOf?_eq, metronomeOf_perform] at laterEq
  split at laterEq
  · rename_i same
    subst same
    rw [Metronome.consume_of_due ticking due, Metronome.following_of_withinLag (by omega)]
      at laterEq
    cases laterEq
    omega
  · exact inTime other later (by rw [deadlineOf?_eq, laterEq])

/-- Within the lag it makes no difference when a beat is performed. -/
theorem WithinLag.perform_eq (inTime : pacer.WithinLag late) (ordered : early ≤ late)
    (next : pacer.nextBeat? early = some beat) :
    pacer.perform early beat = pacer.perform late beat := by
  obtain ⟨deadline, ticking, due, lag⟩ := inTime.exists_due next
  refine eq_of_metronomeOf (by simp) fun other => ?_
  simp only [metronomeOf_perform]
  split
  · rename_i same
    subst same
    exact Metronome.consume_eq_consume ticking due ordered lag
  · rfl

theorem WithinLag.drain (inTime : pacer.WithinLag late) (ordered : early ≤ late) :
    (pacer.drain early).WithinLag late := by
  fun_induction Pacer.drain pacer early with
  | case1 pacer none => exact inTime
  | case2 pacer beat next ih => exact ih (inTime.perform ordered next)

/-- Draining early and again late leaves the same as draining late. -/
theorem WithinLag.drain_drain (inTime : pacer.WithinLag late) (ordered : early ≤ late) :
    (pacer.drain early).drain late = pacer.drain late := by
  fun_induction Pacer.drain pacer early with
  | case1 pacer none => rfl
  | case2 pacer beat next ih =>
      obtain ⟨deadline, upcoming, due⟩ := nextBeat?_eq_some_iff.mp next
      have nextLate : pacer.nextBeat? late = some beat :=
        nextBeat?_eq_some_iff.mpr ⟨deadline, upcoming, Nat.le_trans due ordered⟩
      rw [ih (inTime.perform ordered next), drain_of_nextBeat? nextLate,
        inTime.perform_eq ordered next]

/-- The beats of draining early are the first of those of draining late. -/
theorem WithinLag.beats_append (inTime : pacer.WithinLag late) (ordered : early ≤ late) :
    pacer.beats early ++ (pacer.drain early).beats late = pacer.beats late := by
  fun_induction Pacer.drain pacer early with
  | case1 pacer none => rw [beats_of_none none, List.nil_append]
  | case2 pacer beat next ih =>
      obtain ⟨deadline, upcoming, due⟩ := nextBeat?_eq_some_iff.mp next
      rw [beats_of_nextBeat? upcoming due, List.cons_append, ih (inTime.perform ordered next),
        beats_of_nextBeat? upcoming (Nat.le_trans due ordered), inTime.perform_eq ordered next]

/-- Waking a pacer leaves it as draining does, or halted with its metronomes frozen. -/
theorem catchUp_eq_drain_or (pacer : Pacer) (now : Nat) :
    pacer.catchUp now = pacer.drain now ∨
      (pacer.drain now).player.state ≠ .running ∧
        ∀ beat, (pacer.catchUp now).deadlineOf? beat = none := by
  by_cases running : pacer.player.state = .running
  · by_cases goesOn : (pacer.drain now).player.state = .running
    · exact .inl (catchUp_of_running running goesOn)
    · refine .inr ⟨goesOn, fun beat => ?_⟩
      rw [deadlineOf?_eq, catchUp, running, metronomeOf_followChange]
      exact Metronome.deadline?_follow goesOn
  · rw [catchUp_of_not_running running, drain_of_not_running running]
    exact .inl rfl

theorem WithinLag.catchUp (inTime : pacer.WithinLag late) (ordered : early ≤ late) :
    (pacer.catchUp early).WithinLag late := by
  obtain same | ⟨-, frozen⟩ := catchUp_eq_drain_or pacer early
  · rw [same]
    exact inTime.drain ordered
  · intro beat deadline ticking
    cases (frozen beat).symm.trans ticking

/-- What is performed after a wake-up does not depend on whether metronomes were frozen then. -/
theorem beats_catchUp (pacer : Pacer) (early late : Nat) :
    (pacer.catchUp early).beats late = (pacer.drain early).beats late := by
  obtain same | ⟨halted, -⟩ := catchUp_eq_drain_or pacer early
  · rw [same]
  · have halted' : (pacer.catchUp early).player.state ≠ .running := by
      rwa [player_catchUp, ← player_drain]
    rw [beats_of_none (nextBeat?_of_not_running halted),
      beats_of_none (nextBeat?_of_not_running halted')]

/-- The last wake-up finishes what the earlier ones have begun. -/
theorem WithinLag.beatsAll_append (inTime : pacer.WithinLag late) {earlier : List Nat}
    (ordered : ∀ time ∈ earlier, time ≤ late) :
    pacer.beatsAll (earlier ++ [late]) = pacer.beats late := by
  induction earlier generalizing pacer with
  | nil => exact List.append_nil _
  | cons time rest ih =>
      obtain ⟨first, others⟩ := List.forall_mem_cons.mp ordered
      rw [List.cons_append, beatsAll, ih (inTime.catchUp first) others, beats_catchUp,
        inTime.beats_append first]

/-- If the run goes on, the metronomes do not remember an earlier wake-up. -/
theorem WithinLag.catchUp_catchUp (inTime : pacer.WithinLag late) (ordered : early ≤ late)
    (goesOn : (pacer.catchUp late).player.state = .running) :
    (pacer.catchUp early).catchUp late = pacer.catchUp late := by
  by_cases running : pacer.player.state = .running
  · have drained : (pacer.drain late).player.state = .running := by
      rwa [player_drain, ← player_catchUp]
    by_cases early_running : (pacer.drain early).player.state = .running
    · rw [catchUp_of_running running early_running, catchUp_of_running running drained,
        catchUp_of_running early_running (by rw [inTime.drain_drain ordered, drained]),
        inTime.drain_drain ordered]
    · -- a run that had halted at the early time would not be running at the late one
      rw [← inTime.drain_drain ordered, drain_of_not_running early_running] at drained
      exact absurd drained early_running
  · rw [catchUp_of_not_running running]

/-- If the run goes on, the metronomes do not remember any of the earlier wake-ups. -/
theorem WithinLag.catchUpAll_append (inTime : pacer.WithinLag late) {earlier : List Nat}
    (ordered : ∀ time ∈ earlier, time ≤ late)
    (goesOn : (pacer.catchUp late).player.state = .running) :
    pacer.catchUpAll (earlier ++ [late]) = pacer.catchUp late := by
  induction earlier generalizing pacer with
  | nil => rfl
  | cons time rest ih =>
      obtain ⟨first, others⟩ := List.forall_mem_cons.mp ordered
      have same := inTime.catchUp_catchUp first goesOn
      rw [← same] at goesOn ⊢
      exact ih (inTime.catchUp first) others goesOn

/-- Waking late in bounds is waking on time. However often a pacer is woken until some time, it
performs the beats that a single wake-up at that time performs, unless that one drops beats; the
player ends up the same, and so do the metronomes of a run that goes on. -/
theorem catchUpAll_of_withinLag {last : Nat} {earlier : List Nat} (inTime : pacer.WithinLag last)
    (ordered : ∀ time ∈ earlier, time ≤ last) :
    pacer.beatsAll (earlier ++ [last]) = pacer.beats last ∧
      (pacer.catchUpAll (earlier ++ [last])).player = (pacer.catchUp last).player ∧
      ((pacer.catchUp last).player.state = .running →
        pacer.catchUpAll (earlier ++ [last]) = pacer.catchUp last) := by
  have beats := inTime.beatsAll_append ordered
  refine ⟨beats, ?_, inTime.catchUpAll_append ordered⟩
  rw [player_catchUpAll, player_catchUp, beats]

/-- A run that is woken after ten, twenty and fifty milliseconds, and one that is woken after fifty
only. -/
theorem catchUpAll_of_withinLag_started :
    let program : Program := ⟨"wait", [0xF3, 0x0A], .ofBytes [0xF3, 0x0A], by simp, by decide, rfl⟩
    let started := ((Pacer.start ⟨700, some 0⟩ 0).handle (.start program 0) 0).2
    started.player.state = .running ∧
      started.beatsAll [10000000, 20000000, 50000000] = started.beats 50000000 ∧
      (started.catchUpAll [10000000, 20000000, 50000000]).player =
        (started.catchUp 50000000).player := by
  intro program started
  have inTime : started.WithinLag 50000000 := by
    intro beat deadline _
    exact Nat.le_trans (Nat.sub_le _ _) (by decide)
  have ordered : ∀ time ∈ [10000000, 20000000], time ≤ 50000000 := by decide
  obtain ⟨beats, player, -⟩ := catchUpAll_of_withinLag inTime ordered
  exact ⟨rfl, beats, player⟩

end Pacer

end Chip8
