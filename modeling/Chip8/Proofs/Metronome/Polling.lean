import Chip8.Proofs.Metronome.Owed
import Mathlib.Logic.Function.Iterate

/-!
# Polling again and again

Polled over and over at one instant, a metronome gives the beats that it owes there, and then no
more. Each of them moves the deadline on by a period, unless lag is dropped: then there is a single
beat, and the next one is due a period from now. `Metronome.polls_counted` puts this into numbers.
They do not grow with the instant: a lag of `maxLag` is made up for in full, and a nanosecond later
there is one beat only.
-/

namespace Chip8.Metronome

variable {metronome : Metronome} {now deadline count : Nat}

/-- The metronome behind a number of polls at an instant. -/
def polled (metronome : Metronome) (now count : Nat) : Metronome :=
  (fun metronome : Metronome => (metronome.poll now).2)^[count] metronome

theorem polled_succ (metronome : Metronome) (now count : Nat) :
    metronome.polled now (count + 1) = (metronome.consume now).polled now count := rfl

@[simp] theorem period_polled (metronome : Metronome) (now count : Nat) :
    (metronome.polled now count).period = metronome.period := by
  induction count generalizing metronome with
  | zero => rfl
  | succ count ih => rw [polled_succ, ih, period_consume]

/-! ## How often the answer is yes -/

theorem owed_eq_zero_iff : metronome.owed now = 0 ↔ metronome.due? now = none := by
  cases due : metronome.due? now with
  | none => simp [owed, due]
  | some deadline => simp [← owed_consume due]

/-- The answer to a poll is yes as long as a beat is owed. -/
theorem poll_iff (metronome : Metronome) (now : Nat) :
    (metronome.poll now).1 = true ↔ 0 < metronome.owed now := by
  rw [poll, Option.isSome_iff_ne_none, Ne, ← owed_eq_zero_iff, Nat.pos_iff_ne_zero]

theorem consume_of_owed_eq_zero (settled : metronome.owed now = 0) :
    metronome.consume now = metronome := by
  simp only [consume, owed_eq_zero_iff.mp settled]

/-- A poll takes one beat off those that are owed, if there are any. -/
theorem owed_consume_eq (metronome : Metronome) (now : Nat) :
    (metronome.consume now).owed now = metronome.owed now - 1 := by
  cases due : metronome.due? now with
  | none =>
      have settled := owed_eq_zero_iff.mpr due
      rw [consume_of_owed_eq_zero settled, settled]
  | some deadline => exact Nat.eq_sub_of_add_eq (owed_consume due)

theorem owed_polled (metronome : Metronome) (now count : Nat) :
    (metronome.polled now count).owed now = metronome.owed now - count := by
  induction count generalizing metronome with
  | zero => rfl
  | succ count ih => rw [polled_succ, ih, owed_consume_eq, Nat.sub_sub, Nat.add_comm]

/-- Once nothing is owed, polls leave a metronome as it is. -/
theorem polled_of_owed_eq_zero (settled : metronome.owed now = 0) (count : Nat) :
    metronome.polled now count = metronome :=
  Function.iterate_fixed (consume_of_owed_eq_zero settled) count

/-- The polls behind those that take the beats change nothing. -/
theorem polled_of_owed_le (enough : metronome.owed now ≤ count) :
    metronome.polled now count = metronome.polled now (metronome.owed now) := by
  obtain ⟨more, rfl⟩ := Nat.exists_eq_add_of_le' enough
  have settled : (metronome.polled now (metronome.owed now)).owed now = 0 := by
    rw [owed_polled, Nat.sub_self]
  calc metronome.polled now (more + metronome.owed now)
      = (metronome.polled now (metronome.owed now)).polled now more :=
        Function.iterate_add_apply _ _ _ _
    _ = metronome.polled now (metronome.owed now) := polled_of_owed_eq_zero settled more

/-- Polling until the answer is no takes the beats that are owed, as far as the limit allows. -/
theorem drain_eq (metronome : Metronome) (now limit : Nat) :
    metronome.drain now limit =
      (min limit (metronome.owed now), metronome.polled now (min limit (metronome.owed now))) := by
  induction limit generalizing metronome with
  | zero => simp [drain, polled]
  | succ limit ih =>
      by_cases owes : 0 < metronome.owed now
      · have yes : metronome.poll now = (true, metronome.consume now) :=
          Prod.ext ((metronome.poll_iff now).mpr owes) rfl
        have beats : min (limit + 1) (metronome.owed now) =
            min limit (metronome.owed now - 1) + 1 := by omega
        rw [drain, yes, beats, polled_succ]
        simp only [if_true, ih, owed_consume_eq]
      · have settled : metronome.owed now = 0 := Nat.eq_zero_of_not_pos owes
        have no : metronome.poll now = (false, metronome) :=
          Prod.ext (Bool.eq_false_iff.mpr (mt (metronome.poll_iff now).mp owes))
            (consume_of_owed_eq_zero settled)
        rw [drain, no, settled]
        rfl

/-! ## Where the deadline goes -/

/-- As long as no lag is dropped, each beat moves the deadline on by a period. -/
theorem deadline?_polled (ticking : metronome.deadline? = some deadline)
    (inTime : now - deadline ≤ maxLag) (owes : count ≤ metronome.owed now) :
    (metronome.polled now count).deadline? = some (deadline + count * metronome.period) := by
  induction count generalizing metronome deadline with
  | zero => simpa [polled] using ticking
  | succ count ih =>
      have due : deadline ≤ now := by
        by_contra early
        rw [owed_of_early ticking (Nat.not_le.mp early)] at owes
        exact Nat.not_succ_le_zero count owes
      have next := deadline?_consume ticking due
      rw [following_of_withinLag inTime] at next
      have less := metronome.owed_consume_eq now
      rw [polled_succ, ih next (by omega) (by omega), period_consume, Nat.add_one_mul,
        Nat.add_assoc, Nat.add_comm metronome.period]

/-- If lag is dropped, the deadline is moved to a period from now. -/
theorem deadline?_polled_of_dropped (ticking : metronome.deadline? = some deadline)
    (dropped : maxLag < now - deadline) :
    (metronome.polled now 1).deadline? = some (now + metronome.period) := by
  have due : deadline ≤ now := by omega
  have next := deadline?_consume ticking due
  rwa [following, if_pos dropped] at next

/-- The deadline behind all beats that fit is the first one past the instant. -/
theorem lt_deadline_of_fitting {period : Nat} (positive : 0 < period) (due : deadline ≤ now) :
    now < deadline + ((now - deadline) / period + 1) * period ∧
      deadline + ((now - deadline) / period + 1) * period ≤ now + period := by
  have parts := Nat.div_add_mod' (now - deadline) period
  have rest := Nat.mod_lt (now - deadline) positive
  rw [Nat.add_one_mul]
  omega

/-- What becomes of a metronome that is polled over and over at one instant. As many polls as there
are beats are answered with yes and none after them, and polling until the answer is no takes just
these. There is no beat if the metronome is frozen or its deadline is still to come. There is one
for every deadline up to the instant if the lag is at most `maxLag`, and each of them moves the
deadline on by a period. There is a single one if the lag is more than that, and the deadline is
then a period from now. If there is a beat at all, the next one is due behind the instant, at most a
period later. -/
theorem polls_counted (metronome : Metronome) (now : Nat) :
    let beats := metronome.owed now
    let last := metronome.polled now beats
    (∀ count, ((metronome.polled now count).poll now).1 = true ↔ count < beats) ∧
    (∀ count, beats ≤ count → metronome.polled now count = last) ∧
    (∀ limit, beats ≤ limit → metronome.drain now limit = (beats, last)) ∧
    last.period = metronome.period ∧
    (metronome.deadline? = none → beats = 0 ∧ last = metronome) ∧
    ∀ deadline, metronome.deadline? = some deadline →
      (now < deadline → beats = 0 ∧ last = metronome) ∧
      (deadline ≤ now → now - deadline ≤ maxLag →
        beats = (now - deadline) / metronome.period + 1 ∧
          last.deadline? = some (deadline + beats * metronome.period)) ∧
      (maxLag < now - deadline →
        beats = 1 ∧ last.deadline? = some (now + metronome.period)) ∧
      (0 < beats → ∃ next, last.deadline? = some next ∧
        now < next ∧ next ≤ now + metronome.period) := by
  intro beats last
  have stays (settled : beats = 0) : beats = 0 ∧ last = metronome :=
    ⟨settled, polled_of_owed_eq_zero settled beats⟩
  refine ⟨fun count => ?_, fun count enough => polled_of_owed_le enough, fun limit enough => ?_,
    metronome.period_polled now beats, fun frozen => stays ?_, fun deadline ticking => ?_⟩
  · rw [poll_iff, owed_polled, Nat.sub_pos_iff_lt]
  · rw [drain_eq, Nat.min_eq_right enough]
  · rw [owed_eq_zero_iff, due?, frozen]
    rfl
  · have early (notDue : now < deadline) : beats = 0 := owed_of_early ticking notDue
    have caughtUp (due : deadline ≤ now) (inTime : now - deadline ≤ maxLag) :
        beats = (now - deadline) / metronome.period + 1 ∧
          last.deadline? = some (deadline + beats * metronome.period) := by
      refine ⟨?_, deadline?_polled ticking inTime (Nat.le_refl beats)⟩
      exact (owed_of_due ticking due).trans (if_neg (Nat.not_lt.mpr inTime))
    have dropped (late : maxLag < now - deadline) :
        beats = 1 ∧ last.deadline? = some (now + metronome.period) := by
      have due : deadline ≤ now := by omega
      have single : beats = 1 := (owed_of_due ticking due).trans (if_pos late)
      refine ⟨single, ?_⟩
      rw [← deadline?_polled_of_dropped ticking late, ← single]
    refine ⟨fun notDue => stays (early notDue), caughtUp, dropped, fun given => ?_⟩
    have positive := metronome.period_pos
    have due : deadline ≤ now := Nat.not_lt.mp fun notDue => by
      rw [early notDue] at given
      exact Nat.lt_irrefl 0 given
    by_cases inTime : now - deadline ≤ maxLag
    · obtain ⟨count, next⟩ := caughtUp due inTime
      rw [count] at next
      exact ⟨_, next, lt_deadline_of_fitting positive due⟩
    · exact ⟨_, (dropped (Nat.not_le.mp inTime)).2, by omega, Nat.le_refl _⟩

/-- A metronome that is frozen, one that is polled too early, and one that is polled just in time to
make up for the whole lag and a nanosecond later. -/
theorem polls_counted_tenth_of_second :
    let metronome := Metronome.start 10 0
    let frozen := metronome.freeze 4
    let inTime := maxLag + 10
    let late := maxLag + 11
    (frozen.deadline? = none ∧ frozen.owed late = 0 ∧ frozen.polled late 0 = frozen) ∧
      metronome.deadline? = some 10 ∧
      (9 < 10 ∧ metronome.owed 9 = 0 ∧ metronome.polled 9 0 = metronome) ∧
      (10 ≤ inTime ∧ inTime - 10 ≤ maxLag ∧ metronome.owed inTime = 10000001 ∧
        (metronome.polled inTime 10000001).deadline? = some (maxLag + 20)) ∧
      (maxLag < late - 10 ∧ metronome.owed late = 1 ∧
        (metronome.polled late 1).deadline? = some (maxLag + 21)) := by
  intro metronome frozen inTime late
  have noDeadline : frozen.deadline? = none := rfl
  have ticking : metronome.deadline? = some 10 := rfl
  have notDue : 9 < 10 := by decide
  have due : 10 ≤ inTime := by decide
  have kept : inTime - 10 ≤ maxLag := by decide
  have dropped : maxLag < late - 10 := by decide
  obtain ⟨-, -, -, -, whileFrozen, -⟩ := polls_counted frozen late
  obtain ⟨-, -, -, -, -, beforeDeadline⟩ := polls_counted metronome 9
  obtain ⟨-, -, -, -, -, atLimit⟩ := polls_counted metronome inTime
  obtain ⟨-, -, -, -, -, pastLimit⟩ := polls_counted metronome late
  obtain ⟨silent, still⟩ := whileFrozen noDeadline
  obtain ⟨noneYet, same⟩ := (beforeDeadline 10 ticking).1 notDue
  obtain ⟨count, next⟩ := (atLimit 10 ticking).2.1 due kept
  obtain ⟨single, later⟩ := (pastLimit 10 ticking).2.2.1 dropped
  have fitting : (inTime - 10) / metronome.period + 1 = 10000001 := by decide
  have behind : 10 + 10000001 * metronome.period = maxLag + 20 := by decide
  rw [silent] at still
  rw [noneYet] at same
  rw [fitting] at count
  rw [count, behind] at next
  rw [single] at later
  exact ⟨⟨noDeadline, silent, still⟩, ticking, ⟨notDue, noneYet, same⟩, ⟨due, kept, count, next⟩,
    ⟨dropped, single, later⟩⟩

end Chip8.Metronome
