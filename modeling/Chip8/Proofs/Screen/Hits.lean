import Chip8.Screen
import Mathlib.Data.Finset.Card
import Mathlib.Data.List.ProdSigma
import Mathlib.Logic.Basic

/-!
# Where the bits of a sprite fall

`Screen.draw` toggles the places of a list one after the other. Here that list is compared with the
geometry: which set bit of which row falls on which pixel when the screen goes round its edges
(`Screen.Covers`). A sprite of no more rows than the screen has covers each pixel once at most, a
taller one overlaps itself. `Screen.isLit_draw_iff` says what becomes of a pixel,
`Screen.draw_collides_iff` when some lit pixel is turned dark on the way, and
`Screen.litCount_draw` how many pixels are lit then.
-/

namespace Chip8

/-- Every place of the screen, row by row. -/
def Point.all : List Point :=
  (List.finRange screenHeight ×ˢ List.finRange screenWidth).map fun place => ⟨place.2, place.1⟩

namespace Screen

/-- A set bit of a sprite, counted by its row and from the left, falls on a point when the sprite is
drawn with its top left corner at these coordinates. -/
structure Covers (x y : Nat) (sprite : List UInt8) (row bit : Nat) (point : Point) : Prop where
  row_lt : row < sprite.length
  bit_lt : bit < 8
  /-- The leftmost bit is the most significant. -/
  isSet : (sprite.getD row 0).toNat.testBit (7 - bit) = true
  column_eq : (x + bit) % screenWidth = point.column.val
  row_eq : (y + row) % screenHeight = point.row.val

instance (x y : Nat) (sprite : List UInt8) (row bit : Nat) (point : Point) :
    Decidable (Covers x y sprite row bit point) :=
  decidable_of_iff
    (row < sprite.length ∧ bit < 8 ∧ (sprite.getD row 0).toNat.testBit (7 - bit) = true ∧
      (x + bit) % screenWidth = point.column.val ∧ (y + row) % screenHeight = point.row.val)
    ⟨fun ⟨rowBound, bitBound, isSet, column, line⟩ => ⟨rowBound, bitBound, isSet, column, line⟩,
      fun ⟨rowBound, bitBound, isSet, column, line⟩ => ⟨rowBound, bitBound, isSet, column, line⟩⟩

/-- The set bits of a sprite, row by row and from the left. -/
def setBits (sprite : List UInt8) : List (Nat × Nat) :=
  (List.range sprite.length ×ˢ List.range 8).filter fun place =>
    spriteBit (sprite.getD place.1 0) place.2

/-- The pixels that are lit before and dark after. -/
def turnedOff (before after : Screen) : List Point :=
  Point.all.filter fun point => before.isLit point && !after.isLit point

variable {screen : Screen} {x y row bit row' bit' : Nat} {sprite : List UInt8} {point : Point}

/-! ## Set bits and the places they hit -/

theorem nodup_setBits (sprite : List UInt8) : (setBits sprite).Nodup :=
  (List.nodup_range.product List.nodup_range).filter _

@[simp] theorem mem_setBits :
    (row, bit) ∈ setBits sprite ↔
      row < sprite.length ∧ bit < 8 ∧ spriteBit (sprite.getD row 0) bit = true := by
  simp [setBits, and_assoc]

/-- The set bits of the first row come first. -/
theorem setBits_cons (head : UInt8) (rest : List UInt8) :
    setBits (head :: rest) =
      ((List.range 8).filter (spriteBit head)).map (0, ·) ++
        (setBits rest).map fun place => (place.1 + 1, place.2) := by
  have later : (List.range rest.length).map Nat.succ ×ˢ List.range 8 =
      (List.range rest.length ×ˢ List.range 8).map fun place => (place.1 + 1, place.2) := by
    simp only [SProd.sprod, List.product, List.flatMap_map, List.map_flatMap, List.map_map]
    rfl
  rw [setBits, List.length_cons, List.range_succ_eq_map, List.product_cons, List.filter_append,
    later, List.filter_map, List.filter_map]
  rfl

/-- A sprite is drawn bit by bit. -/
theorem hits_eq_map (x y : Nat) (sprite : List UInt8) :
    hits x y sprite =
      (setBits sprite).map fun place => Point.wrap (x + place.2) (y + place.1) := by
  induction sprite generalizing y with
  | nil => rfl
  | cons head rest ih =>
      rw [hits, ih, setBits_cons, List.map_append, List.map_map, List.map_map]
      simp only [rowHits, Function.comp_def, Nat.add_zero, Nat.add_right_comm y, Nat.add_assoc]

theorem covers_iff :
    Covers x y sprite row bit point ↔
      (row, bit) ∈ setBits sprite ∧ Point.wrap (x + bit) (y + row) = point := by
  rw [mem_setBits]
  constructor
  · rintro ⟨rowBound, bitBound, isSet, columnEq, rowEq⟩
    refine ⟨⟨rowBound, bitBound, isSet⟩, ?_⟩
    cases point
    simp only [Point.wrap, Point.mk.injEq, Fin.ext_iff]
    exact ⟨columnEq, rowEq⟩
  · rintro ⟨⟨rowBound, bitBound, isSet⟩, rfl⟩
    exact ⟨rowBound, bitBound, isSet, rfl, rfl⟩

theorem mem_hits_iff : point ∈ hits x y sprite ↔ ∃ row bit, Covers x y sprite row bit point := by
  simp only [hits_eq_map, List.mem_map, Prod.exists, covers_iff]

/-- Among different things, more than one has a property exactly if some two have it. -/
theorem one_lt_countP_iff {α : Type} [DecidableEq α] {things : List α} {property : α → Bool}
    (different : things.Nodup) :
    1 < things.countP property ↔
      ∃ one ∈ things, ∃ other ∈ things, one ≠ other ∧ property one ∧ property other := by
  rw [List.countP_eq_length_filter, ← List.toFinset_card_of_nodup (different.filter _),
    Finset.one_lt_card]
  simp only [List.mem_toFinset, List.mem_filter]
  constructor
  · rintro ⟨one, ⟨mem, holds⟩, other, ⟨mem', holds'⟩, apart⟩
    exact ⟨one, mem, other, mem', apart, holds, holds'⟩
  · rintro ⟨one, mem, other, mem', apart, holds, holds'⟩
    exact ⟨one, ⟨mem, holds⟩, other, ⟨mem', holds'⟩, apart⟩

/-- A pixel is hit more than once exactly if some two set bits fall on it. -/
theorem one_lt_count_hits_iff :
    1 < (hits x y sprite).count point ↔
      ∃ row bit row' bit', (row, bit) ≠ (row', bit') ∧ Covers x y sprite row bit point ∧
        Covers x y sprite row' bit' point := by
  rw [hits_eq_map, List.count, List.countP_map, one_lt_countP_iff (nodup_setBits sprite)]
  simp only [Prod.exists, Function.comp_apply, beq_iff_eq, covers_iff]
  constructor
  · rintro ⟨row, bit, mem, row', bit', mem', apart, falls, falls'⟩
    exact ⟨row, bit, row', bit', apart, ⟨mem, falls⟩, mem', falls'⟩
  · rintro ⟨row, bit, row', bit', apart, ⟨mem, falls⟩, mem', falls'⟩
    exact ⟨row, bit, mem, row', bit', mem', apart, falls, falls'⟩

/-! ## Sprites that do not overlap themselves -/

/-- Eight columns and no more rows than the screen has never come round to the same pixel. -/
theorem Covers.unique (short : sprite.length ≤ screenHeight)
    (one : Covers x y sprite row bit point) (other : Covers x y sprite row' bit' point) :
    row = row' ∧ bit = bit' := by
  have sameColumn := one.column_eq.trans other.column_eq.symm
  have sameRow := one.row_eq.trans other.row_eq.symm
  obtain ⟨rowBound, bitBound, -, -, -⟩ := one
  obtain ⟨rowBound', bitBound', -, -, -⟩ := other
  simp only [screenWidth, screenHeight] at short sameColumn sameRow
  omega

theorem count_hits_le_one (short : sprite.length ≤ screenHeight) (point : Point) :
    (hits x y sprite).count point ≤ 1 := by
  apply Nat.le_of_not_lt
  intro twice
  obtain ⟨row, bit, row', bit', apart, one, other⟩ := one_lt_count_hits_iff.mp twice
  obtain ⟨rfl, rfl⟩ := one.unique short other
  exact apart rfl

theorem nodup_hits (x y : Nat) (short : sprite.length ≤ screenHeight) : (hits x y sprite).Nodup :=
  List.nodup_iff_count_le_one.mpr (count_hits_le_one short)

/-- Drawing such a sprite turns over the pixels that it covers. -/
theorem isLit_draw_of_short (screen : Screen) (x y : Nat) (short : sprite.length ≤ screenHeight)
    (point : Point) :
    (screen.draw x y sprite).2.isLit point =
      (screen.isLit point ^^ decide (point ∈ hits x y sprite)) := by
  have once : (hits x y sprite).count point ≤ 1 := count_hits_le_one short point
  have odd : (hits x y sprite).count point % 2 = 1 ↔ point ∈ hits x y sprite := by
    rw [← List.count_pos_iff]
    omega
  rw [isLit_draw]
  congr 1
  exact decide_eq_decide.mpr odd

/-- A pixel is lit then if it was lit before or is covered, but not if both. -/
theorem isLit_draw_iff (short : sprite.length ≤ screenHeight) :
    (screen.draw x y sprite).2.isLit point = true ↔
      Xor (screen.isLit point = true) (∃ row bit, Covers x y sprite row bit point) := by
  rw [isLit_draw_of_short screen x y short, ← mem_hits_iff]
  cases screen.isLit point <;> simp [Xor]

/-! ## Collisions -/

/-- Toggling some places turns a lit pixel dark on the way exactly if one of the places was lit
before or comes twice. -/
theorem toggleAll_collides_iff {points : List Point} :
    (screen.toggleAll points).1 = true ↔
      ∃ point ∈ points, screen.isLit point = true ∨ 1 < points.count point := by
  induction points generalizing screen with
  | nil => simp [toggleAll]
  | cons head rest ih =>
      simp only [toggleAll, Bool.or_eq_true, ih, isLit_toggle]
      constructor
      · rintro (lit | ⟨point, later, lit | twice⟩)
        · exact ⟨head, List.mem_cons_self, .inl lit⟩
        · by_cases same : head = point
          · subst same
            refine ⟨head, List.mem_cons_self, .inr ?_⟩
            rw [List.count_cons_self]
            exact Nat.succ_lt_succ (List.count_pos_iff.mpr later)
          · exact ⟨point, List.mem_cons_of_mem _ later, .inl (by simpa [same] using lit)⟩
        · exact ⟨point, List.mem_cons_of_mem _ later,
            .inr (Nat.lt_of_lt_of_le twice List.count_le_count_cons)⟩
      · rintro ⟨point, listed, lit | twice⟩
        · by_cases same : head = point
          · exact .inl (same ▸ lit)
          · have later := (List.mem_cons.mp listed).resolve_left (Ne.symm same)
            exact .inr ⟨point, later, .inl (by simpa [same] using lit)⟩
        · by_cases same : head = point
          · subst same
            rw [List.count_cons_self] at twice
            have later : head ∈ rest := List.count_pos_iff.mp (Nat.lt_of_succ_lt_succ twice)
            cases lit : screen.isLit head with
            | true => exact .inl rfl
            | false => exact .inr ⟨head, later, .inl (by simp [lit])⟩
          · rw [List.count_cons_of_ne same] at twice
            exact .inr ⟨point, List.count_pos_iff.mp (Nat.lt_of_succ_lt twice), .inr twice⟩

/-- Drawing turns a lit pixel dark on the way exactly if a set bit falls on a pixel that was lit
before or on which another set bit falls as well. -/
theorem draw_collides_iff :
    (screen.draw x y sprite).1 = true ↔
      ∃ point, (∃ row bit, Covers x y sprite row bit point) ∧
        (screen.isLit point = true ∨ ∃ row bit row' bit', (row, bit) ≠ (row', bit') ∧
          Covers x y sprite row bit point ∧ Covers x y sprite row' bit' point) := by
  rw [draw, toggleAll_collides_iff]
  simp only [mem_hits_iff, one_lt_count_hits_iff]

/-- A sprite that does not overlap itself turns dark what was lit before. -/
theorem draw_collides_iff_of_short (short : sprite.length ≤ screenHeight) :
    (screen.draw x y sprite).1 = true ↔
      ∃ point ∈ hits x y sprite, screen.isLit point = true := by
  rw [draw, toggleAll_collides_iff]
  have once (point : Point) : ¬1 < (hits x y sprite).count point :=
    Nat.not_lt.mpr (count_hits_le_one short point)
  simp only [once, or_false]

/-! ## Counting pixels -/

@[simp] theorem mem_all (point : Point) : point ∈ Point.all := by
  rw [Point.all, List.mem_map]
  exact ⟨(point.row, point.column),
    List.mem_product.mpr ⟨List.mem_finRange _, List.mem_finRange _⟩, rfl⟩

theorem nodup_all : Point.all.Nodup := by
  refine List.Nodup.map ?_ ((List.nodup_finRange _).product (List.nodup_finRange _))
  rintro ⟨row, column⟩ ⟨row', column'⟩ same
  cases same
  rfl

@[simp] theorem mem_turnedOff {before after : Screen} :
    point ∈ before.turnedOff after ↔ before.isLit point = true ∧ after.isLit point = false := by
  simp [turnedOff]

/-- Drawing a sprite that does not overlap itself collides if some pixel is turned off. -/
theorem draw_collides_iff_turnedOff (short : sprite.length ≤ screenHeight) :
    (screen.draw x y sprite).1 = true ↔
      screen.turnedOff (screen.draw x y sprite).2 ≠ [] := by
  have off (point : Point) : point ∈ screen.turnedOff (screen.draw x y sprite).2 ↔
      point ∈ hits x y sprite ∧ screen.isLit point = true := by
    rw [mem_turnedOff, isLit_draw_of_short screen x y short]
    cases screen.isLit point <;> simp
  simp only [draw_collides_iff_of_short short, Ne, List.eq_nil_iff_forall_not_mem, off, not_forall,
    not_not]

theorem toList_eq_map_finRange {α : Type} {size : Nat} (values : Vector α size) :
    values.toList = (List.finRange size).map fun place => values[place.val] := by
  apply List.ext_getElem <;> simp

/-- The lit pixels can be counted place by place. -/
theorem litCount_eq_countP (screen : Screen) : screen.litCount = Point.all.countP screen.isLit := by
  have pixels : screen.rows.toList.flatMap (·.toList) = Point.all.map screen.isLit := by
    simp only [toList_eq_map_finRange, Point.all, SProd.sprod, List.product, List.flatMap_map,
      List.map_flatMap, List.map_map]
    rfl
  rw [litCount, pixels, List.countP_map]
  rfl

/-- Counting either but not both, and both twice, is counting the one and the other. -/
theorem countP_xor {α : Type} (one other : α → Bool) (things : List α) :
    things.countP (fun thing => one thing ^^ other thing) +
        2 * things.countP (fun thing => one thing && other thing) =
      things.countP one + things.countP other := by
  induction things with
  | nil => rfl
  | cons head rest ih =>
      simp only [List.countP_cons]
      cases one head <;> cases other head <;> simp <;> omega

/-- A sprite that does not overlap itself covers as many pixels as it has set bits. -/
theorem length_setBits (x y : Nat) (short : sprite.length ≤ screenHeight) :
    (setBits sprite).length = Point.all.countP fun point => decide (point ∈ hits x y sprite) := by
  have covered : (Point.all.filter fun point => decide (point ∈ hits x y sprite)).Perm
      (hits x y sprite) := by
    rw [List.perm_ext_iff_of_nodup (nodup_all.filter _) (nodup_hits x y short)]
    simp
  rw [List.countP_eq_length_filter, covered.length_eq, hits_eq_map, List.length_map]

/-- Every set bit lights a pixel or turns one off. -/
theorem litCount_draw (screen : Screen) (x y : Nat) (short : sprite.length ≤ screenHeight) :
    (screen.draw x y sprite).2.litCount +
        2 * (screen.turnedOff (screen.draw x y sprite).2).length =
      screen.litCount + (setBits sprite).length := by
  have lit : (screen.draw x y sprite).2.isLit =
      fun point => screen.isLit point ^^ decide (point ∈ hits x y sprite) :=
    funext (isLit_draw_of_short screen x y short)
  have off : (screen.turnedOff (screen.draw x y sprite).2).length =
      Point.all.countP fun point => screen.isLit point && decide (point ∈ hits x y sprite) := by
    rw [turnedOff, ← List.countP_eq_length_filter]
    congr 1
    funext point
    rw [isLit_draw_of_short screen x y short]
    cases screen.isLit point <;> simp
  rw [litCount_eq_countP, litCount_eq_countP, off, length_setBits x y short, lit, countP_xor]

end Screen

end Chip8
