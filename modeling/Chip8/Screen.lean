/-!
# The screen

A bitmap of 64 by 32 pixels whose opposite edges touch. Drawing a sprite toggles one pixel after
the other, along each row of the sprite from the left and row by row; `Screen.hits` lists these
pixels, and `Screen.isLit_draw` reads the outcome off the list.
-/

namespace Chip8

/-- The number of columns. -/
def screenWidth : Nat := 64

/-- The number of rows. -/
def screenHeight : Nat := 32

/-- A place on the screen. -/
structure Point where
  column : Fin screenWidth
  row : Fin screenHeight
  deriving DecidableEq, Repr

/-- The place at a distance from the top left corner, going round the edges. -/
def Point.wrap (x y : Nat) : Point where
  column := ⟨x % screenWidth, Nat.mod_lt _ (by decide)⟩
  row := ⟨y % screenHeight, Nat.mod_lt _ (by decide)⟩

/-- A bitmap, row by row. -/
structure Screen where
  rows : Vector (Vector Bool screenWidth) screenHeight
  deriving DecidableEq

namespace Screen

/-- Every pixel dark. -/
def blank : Screen := ⟨Vector.replicate screenHeight (Vector.replicate screenWidth false)⟩

/-- Whether the pixel at a place is lit. -/
def isLit (screen : Screen) (point : Point) : Bool :=
  (screen.rows[point.row.val])[point.column.val]

/-- Whether the pixel at these coordinates is lit, going round the edges. -/
def get (screen : Screen) (x y : Nat) : Bool :=
  screen.isLit (.wrap x y)

/-- Turn the pixel at a place over. -/
def toggle (screen : Screen) (point : Point) : Screen :=
  let row := screen.rows[point.row.val]
  ⟨screen.rows.set point.row.val (row.set point.column.val (!row[point.column.val]))⟩

/-- Screens are determined by their pixels. -/
@[ext]
theorem ext_isLit {left right : Screen}
    (pixels : ∀ point, left.isLit point = right.isLit point) : left = right := by
  cases left with | mk left => cases right with | mk right =>
  congr 1
  refine Vector.ext fun row rowBound => Vector.ext fun column columnBound => ?_
  exact pixels ⟨⟨column, columnBound⟩, ⟨row, rowBound⟩⟩

@[simp] theorem isLit_blank (point : Point) : blank.isLit point = false := by
  simp [blank, isLit]

/-- Toggling turns over the pixel at the place and no other. -/
@[simp] theorem isLit_toggle (screen : Screen) (point other : Point) :
    (screen.toggle point).isLit other = (screen.isLit other ^^ decide (point = other)) := by
  cases point with | mk column row => cases other with | mk otherColumn otherRow =>
  simp only [isLit, toggle, Vector.getElem_set, Point.mk.injEq, Fin.ext_iff]
  by_cases sameRow : row.val = otherRow.val
  · by_cases sameColumn : column.val = otherColumn.val <;> simp [sameRow, sameColumn]
  · simp [sameRow]

/-- Whether a bit of a sprite row is set; bit 0 is the leftmost, which is the most significant. -/
def spriteBit (row : UInt8) (bit : Nat) : Bool :=
  row.toNat.testBit (7 - bit)

/-- The places of the set bits of one sprite row, from the left. -/
def rowHits (x y : Nat) (row : UInt8) : List Point :=
  ((List.range 8).filter (spriteBit row)).map fun bit => .wrap (x + bit) y

/-- The places of the set bits of a sprite, in the order in which they are drawn. A sprite that is
taller than the screen hits some places more than once. -/
def hits (x y : Nat) : List UInt8 → List Point
  | [] => []
  | row :: rest => rowHits x y row ++ hits x (y + 1) rest

/-- Toggle places one after the other, and tell whether some lit pixel was turned dark. -/
def toggleAll (screen : Screen) : List Point → Bool × Screen
  | [] => (false, screen)
  | point :: rest =>
      let collided := screen.isLit point
      let (later, drawn) := (screen.toggle point).toggleAll rest
      (collided || later, drawn)

/-- Draw a sprite with its top left corner at these coordinates, and tell whether some lit pixel
was turned dark on the way. -/
def draw (screen : Screen) (x y : Nat) (sprite : List UInt8) : Bool × Screen :=
  screen.toggleAll (hits x y sprite)

/-- After toggling a list of places a pixel is turned over as often as the list names it. -/
theorem isLit_toggleAll (screen : Screen) (points : List Point) (point : Point) :
    (screen.toggleAll points).2.isLit point =
      (screen.isLit point ^^ decide (points.count point % 2 = 1)) := by
  induction points generalizing screen with
  | nil => simp [toggleAll]
  | cons head rest ih =>
      simp only [toggleAll, ih, isLit_toggle, List.count_cons]
      by_cases same : head = point
      · subst same
        rcases Nat.mod_two_eq_zero_or_one (rest.count head) with even | odd <;>
          cases screen.isLit head <;> simp [*, Nat.add_mod]
      · simp [same, beq_eq_false_iff_ne.mpr same]

/-- Drawing turns a pixel over as often as the sprite hits it. -/
theorem isLit_draw (screen : Screen) (x y : Nat) (sprite : List UInt8) (point : Point) :
    (screen.draw x y sprite).2.isLit point =
      (screen.isLit point ^^ decide ((hits x y sprite).count point % 2 = 1)) :=
  isLit_toggleAll screen _ point

/-- The number of lit pixels. -/
def litCount (screen : Screen) : Nat :=
  (screen.rows.toList.flatMap (·.toList)).countP id

/-- One line for each row, a hash for each lit and a blank for each dark pixel. -/
def lines (screen : Screen) : List String :=
  screen.rows.toList.map fun row =>
    String.ofList (row.toList.map fun lit => if lit then '#' else ' ')

/-- The lines, each ended by a line feed. -/
def text (screen : Screen) : String :=
  String.join (screen.lines.map (· ++ "\n"))

/-- A one-line account of a bitmap under the name it goes by. -/
def summary (screen : Screen) (name : String) : String :=
  name ++ " \x7b lit: " ++ toString screen.litCount ++ " \x7d"

end Screen

end Chip8
