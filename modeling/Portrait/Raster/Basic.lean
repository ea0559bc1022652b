/-!
# Rasters

A raster is a rectangle of cells, stored row by row. The cell type is a parameter: palette indices,
gray levels or colours.

* `Raster.ofFn` — the raster whose cell at `(x, y)` is `f x y`.
* `Raster.get?` — the cell at a position, `none` outside the rectangle.

Main statements: `get?_ofFn` says what `ofFn` holds, `ext_get?` that two rasters of one size with
the same cells are equal; every operation on rasters is stated through them.
-/

namespace Portrait

/-- A `width` by `height` rectangle of cells, row by row. -/
structure Raster (α : Type) where
  width : Nat
  height : Nat
  cells : Array α
  size_cells : cells.size = width * height

namespace Raster

variable {α β : Type}

/-- The raster whose cell in column `x` of row `y` is `f x y`. -/
def ofFn (width height : Nat) (f : Nat → Nat → α) : Raster α where
  width := width
  height := height
  cells := Array.ofFn fun i : Fin (width * height) => f (i.val % width) (i.val / width)
  size_cells := Array.size_ofFn

/-- The raster with every cell equal to `a`. -/
def filled (width height : Nat) (a : α) : Raster α where
  width := width
  height := height
  cells := Array.replicate (width * height) a
  size_cells := Array.size_replicate

/-- The raster with the given cells, when there is exactly one for every position. -/
def ofCells? (width height : Nat) (cells : Array α) : Option (Raster α) :=
  if h : cells.size = width * height then some ⟨width, height, cells, h⟩ else none

/-- The cell in column `x` of row `y`, if the raster has one. -/
def get? (r : Raster α) (x y : Nat) : Option α :=
  if x < r.width then r.cells[y * r.width + x]? else none

/-- The cell in column `x` of row `y`, or `d` outside the raster. -/
def getD (r : Raster α) (x y : Nat) (d : α) : α := (r.get? x y).getD d

/-- The same rectangle with `f` applied to every cell. -/
def map (f : α → β) (r : Raster α) : Raster β where
  width := r.width
  height := r.height
  cells := r.cells.map f
  size_cells := by rw [Array.size_map, r.size_cells]

/-- The cells of row `y`, from left to right. -/
def row (r : Raster α) (y : Nat) : List α :=
  (r.cells.extract (y * r.width) (y * r.width + r.width)).toList

theorem div_add_mod_eq {i w : Nat} : i / w * w + i % w = i := by
  rw [Nat.mul_comm]; exact Nat.div_add_mod i w

theorem index_lt {x y w h : Nat} (hx : x < w) (hy : y < h) : y * w + x < w * h := by
  have : (y + 1) * w ≤ h * w := Nat.mul_le_mul_right w hy
  rw [Nat.mul_comm w h]
  rw [Nat.add_mul, Nat.one_mul] at this
  omega

theorem get?_ofFn {w h : Nat} {f : Nat → Nat → α} {x y : Nat} (hx : x < w) (hy : y < h) :
    (ofFn w h f).get? x y = some (f x y) := by
  have hi := index_lt hx hy
  have hmod : (y * w + x) % w = x := by
    rw [Nat.mul_comm, Nat.mul_add_mod, Nat.mod_eq_of_lt hx]
  have hdiv : (y * w + x) / w = y := by
    rw [Nat.mul_comm, Nat.mul_add_div (by omega), Nat.div_eq_of_lt hx, Nat.add_zero]
  simp only [get?, ofFn]
  rw [Array.getElem?_eq_getElem (by simpa using hi)]
  simp [hmod, hdiv, hx]

theorem get?_eq_none {r : Raster α} {x y : Nat} (h : ¬ (x < r.width ∧ y < r.height)) :
    r.get? x y = none := by
  unfold get?
  split
  · rename_i hx
    rw [Array.getElem?_eq_none_iff, r.size_cells]
    have hy : r.height ≤ y := by
      rcases Nat.lt_or_ge y r.height with h' | h'
      · exact absurd ⟨hx, h'⟩ h
      · exact h'
    calc r.width * r.height = r.height * r.width := Nat.mul_comm _ _
      _ ≤ y * r.width := Nat.mul_le_mul_right _ hy
      _ ≤ y * r.width + x := Nat.le_add_right _ _
  · rfl

theorem get?_map (f : α → β) (r : Raster α) (x y : Nat) :
    (r.map f).get? x y = (r.get? x y).map f := by
  by_cases hx : x < r.width <;> simp [get?, map, hx]

theorem get?_filled {w h : Nat} {a : α} {x y : Nat} (hx : x < w) (hy : y < h) :
    (filled w h a).get? x y = some a := by
  unfold get?
  rw [if_pos (show x < (filled w h a).width from hx)]
  simp [filled, index_lt hx hy]

theorem map_filled {w h : Nat} (f : α → β) (a : α) : (filled w h a).map f = filled w h (f a) := by
  simp [map, filled]

/-- The cells of a raster are those at its positions. -/
theorem mem_cells_iff {r : Raster α} {a : α} : a ∈ r.cells ↔ ∃ x y, r.get? x y = some a := by
  constructor
  · intro h
    obtain ⟨i, hi, rfl⟩ := Array.mem_iff_getElem.1 h
    have hw : 0 < r.width := by
      rw [r.size_cells] at hi
      exact Nat.pos_of_mul_pos_right (Nat.zero_lt_of_lt hi)
    refine ⟨i % r.width, i / r.width, ?_⟩
    rw [get?, if_pos (Nat.mod_lt i hw), div_add_mod_eq, Array.getElem?_eq_getElem hi]
  · rintro ⟨x, y, h⟩
    unfold get? at h
    split at h
    · exact Array.mem_of_getElem? h
    · cases h

/-- Rasters of one size that agree at every position are equal. -/
theorem ext_get? {r s : Raster α} (hw : r.width = s.width) (hh : r.height = s.height)
    (hc : ∀ x y, x < r.width → y < r.height → r.get? x y = s.get? x y) : r = s := by
  obtain ⟨w, h, cr, hr⟩ := r
  obtain ⟨w', h', cs, hs⟩ := s
  simp only at hw hh
  subst hw; subst hh
  have : cr = cs := by
    apply Array.ext_getElem?
    intro i
    by_cases hi : i < w * h
    · have hw0 : 0 < w := by
        rcases Nat.eq_zero_or_pos w with rfl | hp
        · simp at hi
        · exact hp
      have hx : i % w < w := Nat.mod_lt _ hw0
      have hy : i / w < h := Nat.div_lt_of_lt_mul hi
      have := hc (i % w) (i / w) hx hy
      simpa only [get?, if_pos hx, div_add_mod_eq] using this
    · rw [Array.getElem?_eq_none_iff.2 (by omega), Array.getElem?_eq_none_iff.2 (by omega)]
  subst this
  rfl

end Raster

end Portrait
