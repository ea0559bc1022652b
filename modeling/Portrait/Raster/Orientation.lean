import Portrait.Raster.Basic

/-!
# Orientations

A camera stores the cells of a picture in one of eight orientations, numbered from 1 as in EXIF: the
number says on which visual sides the first stored row and the first stored column lie.

* `upright` — the picture from its stored cells.
* `visual` — where a stored cell stands in the picture, said by the sides that the orientation names.
* `reindex` — cells moved around within a rectangle.

Main statement: `get?_reindex` says where every cell comes from.
-/

namespace Portrait.Raster

variable {α : Type}

/-- The cell at a position inside the raster. -/
def cell (r : Raster α) (x y : Nat) (hx : x < r.width) (hy : y < r.height) : α :=
  have : y * r.width + x < r.cells.size := by rw [r.size_cells]; exact index_lt hx hy
  r.cells[y * r.width + x]

theorem get?_eq_some_cell (r : Raster α) {x y : Nat} (hx : x < r.width) (hy : y < r.height) :
    r.get? x y = some (r.cell x y hx hy) := by
  have h : y * r.width + x < r.cells.size := by rw [r.size_cells]; exact index_lt hx hy
  simp only [get?, if_pos hx, cell, Array.getElem?_eq_getElem h]

theorem get?_eq_some_getD {r : Raster α} {x y : Nat} (hx : x < r.width) (hy : y < r.height) (d : α) :
    r.get? x y = some (r.getD x y d) := by
  rw [getD, get?_eq_some_cell r hx hy, Option.getD_some]

theorem column_lt {i w h : Nat} (hi : i < w * h) : i % w < w := by
  apply Nat.mod_lt
  rcases Nat.eq_zero_or_pos w with rfl | hw
  · simp at hi
  · exact hw

theorem row_lt {i w h : Nat} (hi : i < w * h) : i / w < h := Nat.div_lt_of_lt_mul hi

/-- The raster of the given size whose cell at `(x, y)` is the cell of `r` at `source x y`. -/
def reindex (r : Raster α) (width height : Nat) (source : Nat → Nat → Nat × Nat)
    (inside : ∀ x y, x < width → y < height →
      (source x y).1 < r.width ∧ (source x y).2 < r.height) : Raster α where
  width := width
  height := height
  cells := Array.ofFn fun i : Fin (width * height) =>
    have h := inside (i.val % width) (i.val / width) (column_lt i.isLt) (row_lt i.isLt)
    r.cell _ _ h.1 h.2
  size_cells := Array.size_ofFn

theorem get?_reindex (r : Raster α) {width height : Nat} {source : Nat → Nat → Nat × Nat}
    (inside : ∀ x y, x < width → y < height →
      (source x y).1 < r.width ∧ (source x y).2 < r.height) {x y : Nat}
    (hx : x < width) (hy : y < height) :
    (r.reindex width height source inside).get? x y = r.get? (source x y).1 (source x y).2 := by
  have hi := index_lt hx hy
  have hmod : (y * width + x) % width = x := by
    rw [Nat.mul_comm, Nat.mul_add_mod, Nat.mod_eq_of_lt hx]
  have hdiv : (y * width + x) / width = y := by
    rw [Nat.mul_comm, Nat.mul_add_div (by omega), Nat.div_eq_of_lt hx, Nat.add_zero]
  have hs := inside x y hx hy
  rw [get?_eq_some_cell r hs.1 hs.2]
  unfold get?
  rw [if_pos (show x < (r.reindex width height source inside).width from hx)]
  simp only [reindex]
  rw [Array.getElem?_eq_getElem (by simpa using hi)]
  simp [hmod, hdiv]

/-- Columns in opposite order. -/
def mirrorX (r : Raster α) : Raster α :=
  r.reindex r.width r.height (fun x y => (r.width - 1 - x, y)) fun _ _ _ _ => by
    constructor <;> dsimp only <;> omega

/-- Rows in opposite order. -/
def mirrorY (r : Raster α) : Raster α :=
  r.reindex r.width r.height (fun x y => (x, r.height - 1 - y)) fun _ _ _ _ => by
    constructor <;> dsimp only <;> omega

/-- Rows and columns in opposite order. -/
def halfTurn (r : Raster α) : Raster α :=
  r.reindex r.width r.height (fun x y => (r.width - 1 - x, r.height - 1 - y)) fun _ _ _ _ => by
    constructor <;> dsimp only <;> omega

/-- Rows become columns. -/
def transpose (r : Raster α) : Raster α :=
  r.reindex r.height r.width (fun x y => (y, x)) fun _ _ _ _ => by
    constructor <;> dsimp only <;> omega

/-- A quarter turn clockwise. -/
def quarterTurn (r : Raster α) : Raster α :=
  r.reindex r.height r.width (fun x y => (y, r.height - 1 - x)) fun _ _ _ _ => by
    constructor <;> dsimp only <;> omega

/-- Rows become columns, from the opposite corner. -/
def transverse (r : Raster α) : Raster α :=
  r.reindex r.height r.width (fun x y => (r.width - 1 - y, r.height - 1 - x)) fun _ _ _ _ => by
    constructor <;> dsimp only <;> omega

/-- A quarter turn counterclockwise. -/
def counterTurn (r : Raster α) : Raster α :=
  r.reindex r.height r.width (fun x y => (r.width - 1 - y, x)) fun _ _ _ _ => by
    constructor <;> dsimp only <;> omega

/-- The picture from cells stored in an orientation; cells in any other are taken as they are. -/
def upright (r : Raster α) (orientation : Nat) : Raster α :=
  match orientation with
  | 2 => r.mirrorX
  | 3 => r.halfTurn
  | 4 => r.mirrorY
  | 5 => r.transpose
  | 6 => r.quarterTurn
  | 7 => r.transverse
  | 8 => r.counterTurn
  | _ => r

/-- A visual side of a picture. -/
inductive Side where
  | top
  | bottom
  | left
  | right
  deriving DecidableEq, Repr

/-- The visual sides of the first stored row and the first stored column. -/
def sides : Nat → Side × Side
  | 2 => (.top, .right)
  | 3 => (.bottom, .right)
  | 4 => (.bottom, .left)
  | 5 => (.left, .top)
  | 6 => (.right, .top)
  | 7 => (.right, .bottom)
  | 8 => (.left, .bottom)
  | _ => (.top, .left)

/-- The coordinate of line `i`, counted from a side of a picture of that size. -/
def Side.line (s : Side) (width height i : Nat) : Nat :=
  match s with
  | .top => i
  | .bottom => height - 1 - i
  | .left => i
  | .right => width - 1 - i

/-- The position in the picture of the cell that is stored in row `row` and column `column`: rows are
counted from one side, columns from the other. -/
def visual (s : Side × Side) (width height column row : Nat) : Nat × Nat :=
  match s.1 with
  | .top | .bottom => (s.2.line width height column, s.1.line width height row)
  | .left | .right => (s.1.line width height row, s.2.line width height column)

/-- Do the stored rows run along the columns of the picture? -/
def swapsSides (orientation : Nat) : Bool := 5 ≤ orientation && orientation ≤ 8

end Portrait.Raster
