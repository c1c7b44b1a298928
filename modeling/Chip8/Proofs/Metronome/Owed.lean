import Chip8.Proofs.Metronome.Pace

/-!
# The beats that a metronome owes

At an instant a metronome owes as many beats as can be consumed there one after the other: a single
one if it drops lag, and otherwise one for each of its deadlines up to that instant. Each beat that
is consumed is one less (`Metronome.owed_consume`), so that the lag that is caught up bounds them
(`Metronome.owed_le`), however late it is.
-/

namespace Chip8.Metronome

variable {metronome : Metronome} {now deadline later : Nat}

/-- How many beats can be consumed at an instant, one after the other. -/
def owed (metronome : Metronome) (now : Nat) : Nat :=
  match metronome.due? now with
  | none => 0
  | some deadline =>
      if maxLag < now - deadline then 1 else (now - deadline) / metronome.period + 1

/-- The deadline behind a beat that is consumed is at most a period away. -/
theorem following_le (metronome : Metronome) (due : deadline ≤ now) :
    metronome.following deadline now ≤ now + metronome.period := by
  simp only [following]
  split <;> omega

theorem deadline?_consume (ticking : metronome.deadline? = some deadline) (due : deadline ≤ now) :
    (metronome.consume now).deadline? = some (metronome.following deadline now) := by
  rw [consume_of_due ticking due]
  rfl

/-- Consuming a beat neither freezes a metronome nor thaws it. -/
@[simp] theorem isSome_deadline?_consume (metronome : Metronome) (now : Nat) :
    (metronome.consume now).deadline?.isSome = metronome.deadline?.isSome := by
  cases due : metronome.due? now with
  | none => simp only [consume, due]
  | some deadline =>
      obtain ⟨ticking, reached⟩ := due?_eq_some_iff.mp due
      rw [deadline?_consume ticking reached, ticking]
      rfl

theorem owed_of_due (ticking : metronome.deadline? = some deadline) (due : deadline ≤ now) :
    metronome.owed now =
      if maxLag < now - deadline then 1 else (now - deadline) / metronome.period + 1 := by
  simp only [owed, due?_eq_some_iff.mpr ⟨ticking, due⟩]

theorem owed_of_early (ticking : metronome.deadline? = some deadline) (early : now < deadline) :
    metronome.owed now = 0 := by
  have notDue : metronome.due? now = none := by
    simp [due?, ticking, Option.filter_some, Nat.not_le.mpr early]
  simp only [owed, notDue]

/-- A beat that is consumed is one less. -/
theorem owed_consume (due : metronome.due? now = some deadline) :
    (metronome.consume now).owed now + 1 = metronome.owed now := by
  obtain ⟨ticking, reached⟩ := due?_eq_some_iff.mp due
  have positive := metronome.period_pos
  have next := deadline?_consume ticking reached
  rw [owed_of_due ticking reached]
  -- With the lag dropped, the next deadline is a period after now, and nothing more is owed.
  by_cases dropped : maxLag < now - deadline
  · rw [following, if_pos dropped] at next
    rw [if_pos dropped, owed_of_early next (by omega)]
  · rw [following, if_neg dropped] at next
    rw [if_neg dropped]
    by_cases again : deadline + metronome.period ≤ now
    · rw [owed_of_due next again, if_neg (by omega), period_consume,
        Nat.div_eq_sub_div positive (show metronome.period ≤ now - deadline by omega),
        Nat.sub_add_eq]
    · rw [owed_of_early next (Nat.not_le.mp again), Nat.div_eq_of_lt (by omega)]

/-- However late it is, no more beats are owed than the lag allows that is caught up. -/
theorem owed_le (metronome : Metronome) (now : Nat) :
    metronome.owed now ≤ maxLag / metronome.period + 1 := by
  simp only [owed]
  split
  · exact Nat.zero_le _
  · split
    · exact Nat.le_add_left _ _
    · rename_i kept
      exact Nat.add_le_add_right (Nat.div_le_div_right (Nat.not_lt.mp kept)) 1

end Chip8.Metronome
