import Chip8.Proofs.Machine.Bounds
import Chip8.Proofs.Screen.Hits

/-!
# Drawing

The instruction that draws takes its sprite from memory, at the index, and its coordinates from two
registers. A sprite has at most fifteen rows, so it never overlaps itself, and the pixels that it
covers are turned over: `Machine.draws_over` says where they lie, what the flag tells, how many
pixels are lit then, and that nothing else is changed.
-/

namespace Chip8.Machine

variable {machine : Machine} {x y : Register} {height : Fin 16}

/-- Everything that drawing does. -/
theorem perform_draw (machine : Machine) (x y : Register) (height : Fin 16) :
    let drawn := machine.screen.draw (machine.reg x).toNat (machine.reg y).toNat
      (machine.memory.range machine.index.toNat height.val)
    machine.perform (.draw x y height) =
      { machine with
        registers :=
          { machine.registers.set flag (flagOf drawn.1) with counter := machine.counter + 2 }
        screen := drawn.2
        screenChanged := true } :=
  rfl

theorem range_short (machine : Machine) (height : Fin 16) :
    (machine.memory.range machine.index.toNat height.val).length ≤ screenHeight := by
  rw [Memory.length_range]
  exact Nat.le_of_lt (Nat.lt_trans height.isLt (by decide))

/-- The flag tells whether drawing has turned some pixel off. -/
theorem flagOf_draw {screen : Screen} {x y : Nat} {sprite : List UInt8}
    (short : sprite.length ≤ screenHeight) :
    flagOf (screen.draw x y sprite).1 =
      if screen.turnedOff (screen.draw x y sprite).2 = [] then 0 else 1 := by
  have collides : (screen.draw x y sprite).1 = true ↔
      screen.turnedOff (screen.draw x y sprite).2 ≠ [] := Screen.draw_collides_iff_turnedOff short
  rw [flagOf]
  by_cases none : screen.turnedOff (screen.draw x y sprite).2 = []
  · rw [if_pos none, if_neg fun collided => collides.mp collided none]
  · rw [if_neg none, if_pos (collides.mpr none)]

/-- Drawing over the edges. When a sprite is drawn, whatever the registers that hold its
coordinates, a pixel is lit then if it was lit before or a set bit falls on it, but not if both; at
most one set bit falls on each pixel. The flag tells whether some pixel was turned off, and the
machine goes on with the next instruction. Nothing else is changed. Every set bit lights a pixel or
turns one off. -/
theorem draws_over (executed : machine.step.1 = .executed (.draw x y height)) :
    let drawn := machine.step.2
    let sprite := machine.memory.range machine.index.toNat height.val
    let covers := Screen.Covers (machine.reg x).toNat (machine.reg y).toNat sprite
    (∀ point, drawn.screen.isLit point = true ↔
      Xor (machine.screen.isLit point = true) (∃ row bit, covers row bit point)) ∧
    (∀ point row bit row' bit', covers row bit point → covers row' bit' point →
      row = row' ∧ bit = bit') ∧
    drawn.reg flag = (if machine.screen.turnedOff drawn.screen = [] then 0 else 1) ∧
    drawn.counter.toNat = machine.counter.toNat + 2 ∧
    drawn =
      { machine with
        registers :=
          { machine.registers.set flag (drawn.reg flag) with counter := machine.counter + 2 }
        screen := drawn.screen
        screenChanged := true } ∧
    drawn.screen.litCount + 2 * (machine.screen.turnedOff drawn.screen).length =
      machine.screen.litCount + (Screen.setBits sprite).length := by
  intro drawn sprite covers
  have short : sprite.length ≤ screenHeight := range_short machine height
  obtain ⟨-, fetched, -, step⟩ := course_of_executed executed
  have course : drawn = _ := (congrArg Prod.snd step).trans (perform_draw machine x y height)
  have screen : drawn.screen =
      (machine.screen.draw (machine.reg x).toNat (machine.reg y).toNat sprite).2 := by
    rw [course]
  have told : drawn.reg flag =
      flagOf (machine.screen.draw (machine.reg x).toNat (machine.reg y).toNat sprite).1 := by
    rw [course]
    exact (Registers.get_set machine.registers flag flag _).trans (if_pos rfl)
  refine ⟨?pixels, ?once, ?flag, ?counter, ?frame, ?count⟩
  case pixels =>
    intro point
    rw [screen]
    exact Screen.isLit_draw_iff short
  case once =>
    intro point row bit row' bit' one other
    exact one.unique short other
  case flag =>
    rw [told, screen]
    exact flagOf_draw short
  case counter =>
    have inside : machine.counter.toNat + 2 ≤ 4096 := counter_add_two_le_of_fetch fetched
    rw [course]
    exact toNat_counter_advance (by omega)
  case frame =>
    rw [told, screen]
    exact course
  case count =>
    rw [screen]
    exact Screen.litCount_draw machine.screen _ _ short

/-- The top row of the digit zero, drawn two columns from the right edge and far below the bottom
edge of a blank screen, with the flag as both coordinates: its third bit falls on the leftmost
column. -/
theorem draws_over_edge :
    let machine := (boot [0x6F, 0x3E, 0xDF, 0xF1] 0).afterAll [.step]
    machine.step.1 = .executed (.draw flag flag ⟨1, by decide⟩) ∧
      machine.step.2.screen.isLit (.wrap 64 62) = true ∧ machine.step.2.reg flag = 0 := by
  have loads : (boot [0x6F, 0x3E, 0xDF, 0xF1] 0).step = (.executed (.setConstant flag 0x3E), _) :=
    step_of_fetch rfl (fetch_of_image rfl (by decide) (by decide)) (Memory.rangeFault?_zero _)
  rw [(executions_of_step loads).2]
  intro machine
  have dark (point : Point) : machine.screen.isLit point = false := Screen.isLit_blank point
  have draws : machine.step = (.executed (.draw flag flag ⟨1, by decide⟩), _) :=
    step_of_fetch rfl (fetch_of_image rfl (by decide) (by decide))
      (Memory.rangeFault?_eq_none_iff.mpr (.inr (by decide)))
  have executed : machine.step.1 = .executed (.draw flag flag ⟨1, by decide⟩) := by
    rw [draws]
  have memory : machine.memory = .ofImage [0x6F, 0x3E, 0xDF, 0xF1] := rfl
  have top : machine.memory.cell 0 = 0xF0 := by
    rw [memory, Memory.cell_ofImage _ (by decide)]
    decide
  have sprite : machine.memory.range machine.index.toNat 1 = [0xF0] := by
    show [machine.memory.cell 0] = [0xF0]
    rw [top]
  obtain ⟨pixels, -, told, -, -, -⟩ := draws_over executed
  refine ⟨executed, (pixels _).mpr (.inr ⟨⟨0, 2, ?_⟩, ?_⟩), ?_⟩
  · show Screen.Covers _ _ (machine.memory.range machine.index.toNat 1) 0 2 _
    rw [sprite]
    decide
  · rw [dark]
    decide
  · rw [told, if_pos]
    simp [Screen.turnedOff, dark]

end Chip8.Machine
