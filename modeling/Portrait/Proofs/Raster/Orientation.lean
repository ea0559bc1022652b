import Portrait.Raster.Orientation

/-!
# Turning a picture upright

Storing a picture in an orientation puts each of its cells where the two sides of the orientation
say, and turning the stored cells upright takes each of them back. Both move cells from one position
to another; what has to be seen is that the positions are each other's inverse for every orientation
and every size.

* `stored` — the cells of a picture as an orientation stores them.
* `storedAt` — the position at which a cell of the picture is stored, the inverse of `visual`.
* `get?_upright` — every one of the turns takes its cells from these positions.

Main statements: `upright_stored` and `stored_upright`.
-/

set_option autoImplicit false

namespace Portrait.Raster

variable {α : Type}

/-! ## Sides -/

/-- Is this the left or the right side? The lines counted from these are columns. -/
def Side.isLateral : Side → Bool
  | .left | .right => true
  | .top | .bottom => false

/-- Do these two sides meet in a corner? -/
def Adjoin (s : Side × Side) : Prop := s.2.isLateral = !s.1.isLateral

/-- The column and row in which the cell at a position of the picture is stored. -/
def storedAt (s : Side × Side) (width height x y : Nat) : Nat × Nat :=
  match s.1 with
  | .top | .bottom => (s.2.line width height x, s.1.line width height y)
  | .left | .right => (s.2.line width height y, s.1.line width height x)

/-- Every number but seven stands for cells that are stored as they are seen. -/
theorem orientation_cases (o : Nat) :
    (o = 2 ∨ o = 3 ∨ o = 4 ∨ o = 5 ∨ o = 6 ∨ o = 7 ∨ o = 8) ∨
      (sides o = (.top, .left) ∧ swapsSides o = false ∧ ∀ r : Raster α, r.upright o = r) := by
  by_cases ho : 2 ≤ o ∧ o ≤ 8
  · left
    omega
  · right
    refine ⟨?_, ?_, fun r => ?_⟩
    · unfold sides
      split <;> first | rfl | omega
    · simp only [swapsSides, Bool.and_eq_false_iff, decide_eq_false_iff_not]
      omega
    · unfold upright
      split <;> first | rfl | omega

/-- Rows are counted from a lateral side if and only if they run along the columns of the picture,
and columns are counted from a side that adjoins it. -/
theorem isLateral_sides (o : Nat) : (sides o).1.isLateral = swapsSides o ∧ Adjoin (sides o) := by
  obtain (rfl | rfl | rfl | rfl | rfl | rfl | rfl) | ⟨hsides, hswaps, -⟩ :=
    orientation_cases (α := Unit) o
  case inr =>
    rw [hsides, hswaps]
    exact ⟨rfl, rfl⟩
  all_goals exact ⟨rfl, rfl⟩

section Positions

variable {s : Side × Side} {width height x y i : Nat}

theorem Side.line_lt (s : Side) (width height : Nat)
    (hi : i < if s.isLateral then width else height) :
    s.line width height i < if s.isLateral then width else height := by
  cases s <;> simp only [isLateral, Bool.false_eq_true, if_true, if_false, line] at hi ⊢ <;> omega

/-- Counting twice from the same side leads back. -/
theorem Side.line_line (s : Side) (width height : Nat)
    (hi : i < if s.isLateral then width else height) :
    s.line width height (s.line width height i) = i := by
  cases s <;> simp only [isLateral, Bool.false_eq_true, if_true, if_false, line] at hi ⊢ <;> omega

theorem visual_inside (hs : Adjoin s) (hx : x < if s.1.isLateral then height else width)
    (hy : y < if s.1.isLateral then width else height) :
    (visual s width height x y).1 < width ∧ (visual s width height x y).2 < height := by
  obtain ⟨a, b⟩ := s
  have ha := a.line_lt width height hy
  have hb := b.line_lt width height (i := x)
  rw [show b.isLateral = !a.isLateral from hs] at hb
  cases a
  case top | bottom => exact ⟨hb hx, ha⟩
  case left | right => exact ⟨ha, hb hx⟩

theorem storedAt_inside (hs : Adjoin s) (hx : x < width) (hy : y < height) :
    ((storedAt s width height x y).1 < if s.1.isLateral then height else width) ∧
      ((storedAt s width height x y).2 < if s.1.isLateral then width else height) := by
  obtain ⟨a, b⟩ := s
  have ha (i : Nat) := a.line_lt width height (i := i)
  have hb (i : Nat) := b.line_lt width height (i := i)
  rw [show b.isLateral = !a.isLateral from hs] at hb
  cases a
  case top | bottom => exact ⟨hb x hx, ha y hy⟩
  case left | right => exact ⟨hb y hy, ha x hx⟩

theorem storedAt_visual (hs : Adjoin s) (hx : x < if s.1.isLateral then height else width)
    (hy : y < if s.1.isLateral then width else height) :
    storedAt s width height (visual s width height x y).1 (visual s width height x y).2 =
      (x, y) := by
  obtain ⟨a, b⟩ := s
  have ha := a.line_line width height hy
  have hb := b.line_line width height (i := x)
  rw [show b.isLateral = !a.isLateral from hs] at hb
  cases a <;> exact Prod.ext (hb hx) ha

theorem visual_storedAt (hs : Adjoin s) (hx : x < width) (hy : y < height) :
    visual s width height (storedAt s width height x y).1 (storedAt s width height x y).2 =
      (x, y) := by
  obtain ⟨a, b⟩ := s
  have ha (i : Nat) := a.line_line width height (i := i)
  have hb (i : Nat) := b.line_line width height (i := i)
  rw [show b.isLateral = !a.isLateral from hs] at hb
  cases a
  case top | bottom => exact Prod.ext (hb x hx) (ha y hy)
  case left | right => exact Prod.ext (ha x hx) (hb y hy)

end Positions

/-! ## Storing -/

/-- The cells of a picture as they are stored in an orientation. -/
def stored (r : Raster α) (o : Nat) : Raster α :=
  r.reindex (if swapsSides o then r.height else r.width)
    (if swapsSides o then r.width else r.height) (visual (sides o) r.width r.height)
    fun _ _ hx hy => by
      obtain ⟨hlateral, hs⟩ := isLateral_sides o
      rw [← hlateral] at hx hy
      exact visual_inside hs hx hy

variable (r : Raster α) {o x y : Nat}

theorem width_stored (o : Nat) :
    (r.stored o).width = if swapsSides o then r.height else r.width := rfl

theorem height_stored (o : Nat) :
    (r.stored o).height = if swapsSides o then r.width else r.height := rfl

theorem get?_stored (hx : x < (r.stored o).width) (hy : y < (r.stored o).height) :
    (r.stored o).get? x y =
      r.get? (visual (sides o) r.width r.height x y).1 (visual (sides o) r.width r.height x y).2 :=
  get?_reindex r _ hx hy

/-! ## Turning -/

/-- Half of the turns swap the sides. -/
theorem size_upright (o : Nat) :
    (r.upright o).width = (if swapsSides o then r.height else r.width) ∧
      (r.upright o).height = if swapsSides o then r.width else r.height := by
  obtain (rfl | rfl | rfl | rfl | rfl | rfl | rfl) | ⟨-, hswaps, hupright⟩ := orientation_cases o
  case inr =>
    rw [hupright, hswaps]
    exact ⟨rfl, rfl⟩
  all_goals exact ⟨rfl, rfl⟩

/-- **Each of the eight turns takes a cell from where its orientation stores it.** -/
theorem get?_upright (hx : x < (r.upright o).width) (hy : y < (r.upright o).height) :
    (r.upright o).get? x y =
      r.get? (storedAt (sides o) (r.upright o).width (r.upright o).height x y).1
        (storedAt (sides o) (r.upright o).width (r.upright o).height x y).2 := by
  obtain (rfl | rfl | rfl | rfl | rfl | rfl | rfl) | ⟨hsides, -, hupright⟩ :=
    orientation_cases (α := α) o
  case inr =>
    rw [hsides, hupright]
    rfl
  all_goals exact get?_reindex r _ hx hy

/-- **Turning undoes storing.** -/
theorem upright_stored (o : Nat) : (r.stored o).upright o = r := by
  obtain ⟨hlateral, hs⟩ := isLateral_sides o
  have hwidth : ((r.stored o).upright o).width = r.width := by
    rw [((r.stored o).size_upright o).1, width_stored, height_stored]
    cases swapsSides o <;> rfl
  have hheight : ((r.stored o).upright o).height = r.height := by
    rw [((r.stored o).size_upright o).2, width_stored, height_stored]
    cases swapsSides o <;> rfl
  refine ext_get? hwidth hheight fun x y hx hy => ?_
  have hx' : x < r.width := hwidth ▸ hx
  have hy' : y < r.height := hheight ▸ hy
  obtain ⟨hcolumn, hrow⟩ := storedAt_inside hs hx' hy'
  rw [hlateral] at hcolumn hrow
  rw [get?_upright _ hx hy, hwidth, hheight, get?_stored r hcolumn hrow, visual_storedAt hs hx' hy']

/-- **Storing undoes turning.** -/
theorem stored_upright (o : Nat) : (r.upright o).stored o = r := by
  obtain ⟨hlateral, hs⟩ := isLateral_sides o
  have hwidth : ((r.upright o).stored o).width = r.width := by
    rw [width_stored, (r.size_upright o).1, (r.size_upright o).2]
    cases swapsSides o <;> rfl
  have hheight : ((r.upright o).stored o).height = r.height := by
    rw [height_stored, (r.size_upright o).1, (r.size_upright o).2]
    cases swapsSides o <;> rfl
  refine ext_get? hwidth hheight fun x y hx hy => ?_
  have hx' := hx
  have hy' := hy
  rw [width_stored, ← hlateral] at hx'
  rw [height_stored, ← hlateral] at hy'
  obtain ⟨hcolumn, hrow⟩ := visual_inside hs hx' hy'
  rw [get?_stored _ hx hy, get?_upright r hcolumn hrow, storedAt_visual hs hx' hy']

end Portrait.Raster
