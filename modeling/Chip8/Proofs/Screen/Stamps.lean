import Chip8.Proofs.Screen.Hits

/-!
# Stamps

A stamp is a sprite with the place where it is drawn, given by two 64-bit words. Words wrap, and so
does the screen; since its sides divide the number of words, both come to the same
(`Screen.stamp_eq_draw`). Stamping toggles pixels and nothing else, so that the order of stamps does
not matter and stamping everything twice is doing nothing, for sprites of any height:
`Screen.stamps_commute_and_cancel`.
-/

namespace Chip8

/-- A sprite, and the place where its top left corner goes. -/
structure Stamp where
  x : UInt64
  y : UInt64
  sprite : List UInt8
  deriving DecidableEq, Repr

namespace Stamp

/-- The places of the set bits, in the order in which they are drawn. The plain addition of machine
words is read as wrapping here, and not as failing where it overflows, as it is for the end of a
range in memory (`Memory.spanEnd?`). -/
def places (stamp : Stamp) : List Point :=
  (Screen.setBits stamp.sprite).map fun (row, bit) =>
    .wrap (stamp.x + UInt64.ofNat bit).toNat (stamp.y + UInt64.ofNat row).toNat

/-- A set bit of a stamp falls on a point. -/
def Covers (stamp : Stamp) : Nat → Nat → Point → Prop :=
  Screen.Covers stamp.x.toNat stamp.y.toNat stamp.sprite

instance (stamp : Stamp) (row bit : Nat) (point : Point) : Decidable (stamp.Covers row bit point) :=
  inferInstanceAs (Decidable (Screen.Covers _ _ _ _ _ _))

end Stamp

namespace Screen

/-- Draw a stamp, and tell whether some lit pixel was turned dark on the way. -/
def stamp (screen : Screen) (stamp : Stamp) : Bool × Screen :=
  screen.toggleAll stamp.places

/-- Draw stamps one after the other. -/
def stampAll (screen : Screen) : List Stamp → Screen
  | [] => screen
  | stamp :: rest => (screen.stamp stamp).2.stampAll rest

variable {screen : Screen} {x y x' y' : Nat} {sprite : List UInt8}

/-! ## Words and numbers -/

theorem wrap_congr (columns : x % screenWidth = x' % screenWidth)
    (rows : y % screenHeight = y' % screenHeight) : Point.wrap x y = Point.wrap x' y' := by
  rw [Point.wrap, Point.wrap, Point.mk.injEq]
  exact ⟨Fin.ext columns, Fin.ext rows⟩

/-- The hits depend on the coordinates no further than the screen is wide and high. -/
theorem hits_congr (columns : x % screenWidth = x' % screenWidth)
    (rows : y % screenHeight = y' % screenHeight) : hits x y sprite = hits x' y' sprite := by
  rw [hits_eq_map, hits_eq_map]
  apply List.map_congr_left
  rintro ⟨row, bit⟩ -
  apply wrap_congr
  · rw [Nat.add_mod, columns, ← Nat.add_mod]
  · rw [Nat.add_mod, rows, ← Nat.add_mod]

/-- Words that wrap lead to the same places as numbers. -/
theorem places_eq_hits (stamp : Stamp) :
    stamp.places = hits stamp.x.toNat stamp.y.toNat stamp.sprite := by
  rw [hits_eq_map]
  apply List.map_congr_left
  rintro ⟨row, bit⟩ -
  apply wrap_congr
  · rw [UInt64.toNat_add, UInt64.toNat_ofNat', screenWidth]
    omega
  · rw [UInt64.toNat_add, UInt64.toNat_ofNat', screenHeight]
    omega

theorem stamp_eq_draw (screen : Screen) (stamp : Stamp) :
    screen.stamp stamp = screen.draw stamp.x.toNat stamp.y.toNat stamp.sprite := by
  rw [Screen.stamp, places_eq_hits, draw]

/-! ## Many stamps -/

theorem toggleAll_append (screen : Screen) (first second : List Point) :
    (screen.toggleAll (first ++ second)).2 = ((screen.toggleAll first).2.toggleAll second).2 := by
  induction first generalizing screen with
  | nil => rfl
  | cons head rest ih => exact ih (screen.toggle head)

/-- Stamps toggle all their places. -/
theorem stampAll_eq_toggleAll (screen : Screen) (stamps : List Stamp) :
    screen.stampAll stamps = (screen.toggleAll (stamps.flatMap Stamp.places)).2 := by
  induction stamps generalizing screen with
  | nil => rfl
  | cons stamp rest ih =>
      rw [stampAll, ih, List.flatMap_cons, toggleAll_append]
      rfl

/-- The order of the places does not matter. -/
theorem toggleAll_perm (screen : Screen) {places others : List Point}
    (reordered : places.Perm others) :
    (screen.toggleAll places).2 = (screen.toggleAll others).2 := by
  ext point
  rw [isLit_toggleAll, isLit_toggleAll, reordered.count_eq]

/-- Places toggled twice are as they were. -/
theorem toggleAll_toggleAll (screen : Screen) (places : List Point) :
    ((screen.toggleAll places).2.toggleAll places).2 = screen := by
  ext point
  rw [isLit_toggleAll, isLit_toggleAll, Bool.xor_assoc, Bool.xor_self, Bool.xor_false]

/-! ## A stamp that does not overlap itself, drawn twice -/

/-- The second time, a lit pixel is turned dark where one was dark at first. -/
theorem draw_again_collides_iff (short : sprite.length ≤ screenHeight) :
    ((screen.draw x y sprite).2.draw x y sprite).1 = true ↔
      ∃ point ∈ hits x y sprite, screen.isLit point = false := by
  rw [draw_collides_iff_of_short short]
  refine exists_congr fun point => and_congr_right fun hit => ?_
  rw [isLit_draw_of_short screen x y short, decide_eq_true hit]
  cases screen.isLit point <;> decide

/-- If neither time a lit pixel is turned dark, no pixel is covered. -/
theorem draw_twice_silent_iff (short : sprite.length ≤ screenHeight) :
    (screen.draw x y sprite).1 = false ∧ ((screen.draw x y sprite).2.draw x y sprite).1 = false ↔
      setBits sprite = [] := by
  rw [← Bool.not_eq_true, ← Bool.not_eq_true, draw_again_collides_iff short,
    draw_collides_iff_of_short short]
  constructor
  · rintro ⟨neverLit, neverDark⟩
    rw [← List.map_eq_nil_iff, ← hits_eq_map x y, List.eq_nil_iff_forall_not_mem]
    intro point hit
    cases lit : screen.isLit point with
    | true => exact neverLit ⟨point, hit, lit⟩
    | false => exact neverDark ⟨point, hit, lit⟩
  · intro none
    simp [hits_eq_map, none]

/-- Stamps commute and cancel. To draw a stamp is to draw its sprite at its coordinates, taken as
numbers. Any stamps, in whatever order they are drawn, lead to the same screen, and drawn once more
in whatever order they lead back to the first one. A stamp depends on its coordinates no further
than the screen is wide and high. Drawing it turns a lit pixel dark on the way exactly if a set bit
falls on a pixel that was lit before or on which another set bit falls as well. A sprite of no more
rows than the screen, drawn twice at one place, does so at least once unless it has no set bit, and
the second time exactly if it covers a pixel that was dark at first. -/
theorem stamps_commute_and_cancel :
    (∀ (screen : Screen) (stamp : Stamp),
      screen.stamp stamp = screen.draw stamp.x.toNat stamp.y.toNat stamp.sprite) ∧
    (∀ (screen : Screen) (stamps others : List Stamp), stamps.Perm others →
      screen.stampAll stamps = screen.stampAll others ∧
        (screen.stampAll stamps).stampAll others = screen) ∧
    (∀ (screen : Screen) (stamp moved : Stamp), moved.sprite = stamp.sprite →
      moved.x.toNat % screenWidth = stamp.x.toNat % screenWidth →
      moved.y.toNat % screenHeight = stamp.y.toNat % screenHeight →
        screen.stamp moved = screen.stamp stamp) ∧
    (∀ (screen : Screen) (stamp : Stamp),
      (screen.stamp stamp).1 = true ↔
        ∃ point, (∃ row bit, stamp.Covers row bit point) ∧
          (screen.isLit point = true ∨ ∃ row bit row' bit', (row, bit) ≠ (row', bit') ∧
            stamp.Covers row bit point ∧ stamp.Covers row' bit' point)) ∧
    ∀ (screen : Screen) (stamp : Stamp), stamp.sprite.length ≤ screenHeight →
      let first := screen.stamp stamp
      let second := first.2.stamp stamp
      (first.1 = false ∧ second.1 = false ↔ setBits stamp.sprite = []) ∧
      (second.1 = true ↔
        ∃ point, (∃ row bit, stamp.Covers row bit point) ∧ screen.isLit point = false) := by
  refine ⟨stamp_eq_draw, ?order, ?place, ?collision, ?twice⟩
  case order =>
    intro screen stamps others reordered
    have places : (stamps.flatMap Stamp.places).Perm (others.flatMap Stamp.places) :=
      reordered.flatMap_right _
    have same : screen.stampAll stamps = screen.stampAll others := by
      rw [stampAll_eq_toggleAll, stampAll_eq_toggleAll, toggleAll_perm screen places]
    refine ⟨same, ?_⟩
    rw [same, stampAll_eq_toggleAll, stampAll_eq_toggleAll, toggleAll_toggleAll]
  case place =>
    intro screen stamp moved sprites columns rows
    rw [stamp_eq_draw, stamp_eq_draw, draw, draw, sprites, hits_congr columns rows]
  case collision =>
    intro screen stamp
    rw [stamp_eq_draw]
    exact draw_collides_iff
  case twice =>
    intro screen stamp short
    simp only [stamp_eq_draw]
    refine ⟨draw_twice_silent_iff short, ?_⟩
    rw [draw_again_collides_iff short]
    simp only [mem_hits_iff]
    rfl

/-- A column that is one pixel taller than the screen, and two pixels across the right edge. The
column overlaps itself at its top; the pair is the same 64 columns further left. -/
theorem stamps_commute_and_cancel_tall :
    let tall : Stamp := ⟨0, 0, List.replicate 33 0x80⟩
    let pair : Stamp := ⟨0xFFFFFFFFFFFFFFFF, 31, [0xC0]⟩
    [tall, pair].Perm [pair, tall] ∧
      blank.stampAll [tall, pair] = blank.stampAll [pair, tall] ∧
      (blank.stampAll [tall, pair]).stampAll [pair, tall] = blank ∧
      blank.stamp pair = blank.stamp ⟨63, 31, [0xC0]⟩ ∧ (blank.stamp tall).1 = true ∧
      pair.sprite.length ≤ screenHeight ∧ ((blank.stamp pair).2.stamp pair).1 = true := by
  intro tall pair
  obtain ⟨-, order, place, collision, twice⟩ := stamps_commute_and_cancel
  have swapped : [tall, pair].Perm [pair, tall] := .swap pair tall []
  have top : tall.Covers 0 0 (.wrap 0 0) := by decide
  have bottom : tall.Covers 32 0 (.wrap 0 0) := by decide
  have across : pair.Covers 0 1 (.wrap 64 31) := by decide
  have short : pair.sprite.length ≤ screenHeight := by decide
  refine ⟨swapped, (order _ _ _ swapped).1, (order _ _ _ swapped).2, ?_, ?_, short, ?_⟩
  · exact place blank ⟨63, 31, [0xC0]⟩ pair rfl (by decide) rfl
  · exact (collision blank tall).mpr
      ⟨_, ⟨0, 0, top⟩, .inr ⟨0, 0, 32, 0, by decide, top, bottom⟩⟩
  · exact (twice blank pair short).2.mpr ⟨_, ⟨0, 1, across⟩, isLit_blank _⟩

end Screen

end Chip8
