import Mathlib.Data.Nat.Count
import Portrait.Raster.Interlace
import Portrait.Raster.Orientation

/-!
# Reading rows undoes writing them

A pass of an interlaced file is a filter on the row numbers, and the place of a row in its pass is
the number of rows before it that are in the pass too.

* `count_mod` — how many numbers below a bound leave a remainder.
* `getElem?_interlacedRows` — every row stands where `interlacedSlot` says.

Main statement: `deserialize_serialize`.
-/

set_option autoImplicit false

namespace Portrait.Raster

/-! ## Passes -/

theorem count_mod {m k : Nat} (hk : k < m) (n : Nat) :
    Nat.count (fun y => y % m = k) n = (n + (m - 1 - k)) / m := by
  induction n with
  | zero =>
    rw [Nat.count_zero, Nat.div_eq_of_lt (by omega)]
  | succ n ih =>
    have hsucc : n + 1 + (m - 1 - k) = n + (m - 1 - k) + 1 := by omega
    rw [Nat.count_succ, ih, hsucc, Nat.succ_div]
    congr 1
    -- The remainder is `k` exactly if `n` is followed by `m - k` up to a multiple of `m`.
    have hn : n + (m - 1 - k) + 1 = m * (n / m) + (n % m + (m - k)) := by
      have := Nat.div_add_mod n m
      omega
    have hmod : n % m < m := Nat.mod_lt n (by omega)
    have hiff : n % m = k ↔ m ∣ n + (m - 1 - k) + 1 := by
      rw [hn, Nat.dvd_add_right (Nat.dvd_mul_right m (n / m))]
      constructor
      · intro h
        exact ⟨1, by omega⟩
      · rintro ⟨c, hc⟩
        have hc1 : c = 1 := by
          have hpos : 0 < m * c := by omega
          have hlt : m * c < m * 2 := by omega
          have := Nat.pos_of_mul_pos_left hpos
          have := Nat.lt_of_mul_lt_mul_left hlt
          omega
        rw [hc1] at hc
        omega
    simp only [hiff]

variable {p : Nat → Prop} [DecidablePred p] {y h : Nat}

theorem length_filter_range (p : Nat → Prop) [DecidablePred p] (n : Nat) :
    ((List.range n).filter fun y => p y).length = Nat.count p n := by
  rw [← List.countP_eq_length_filter]
  rfl

/-- The place of a number among those below a bound that have a property. -/
theorem getElem?_filter_range (hy : y < h) (hp : p y) :
    ((List.range h).filter fun y => p y)[Nat.count p y]? = some y := by
  induction h with
  | zero => omega
  | succ n ih =>
    rw [List.range_succ, List.filter_append]
    rcases Nat.lt_succ_iff_lt_or_eq.1 hy with hlt | rfl
    · have hin := ih hlt
      obtain ⟨hbound, -⟩ := List.getElem?_eq_some_iff.1 hin
      rw [List.getElem?_append_left hbound]
      exact hin
    · rw [List.getElem?_append_right (Nat.le_of_eq (length_filter_range p y)), length_filter_range]
      simp [hp]

theorem length_interlacedRows (h : Nat) : (interlacedRows h).length = h := by
  simp only [interlacedRows, List.length_append, length_filter_range]
  rw [count_mod (by decide), count_mod (by decide), count_mod (by decide), count_mod (by decide)]
  omega

theorem lt_of_mem_interlacedRows (hy : y ∈ interlacedRows h) : y < h := by
  simp only [interlacedRows, List.mem_append, List.mem_filter, List.mem_range] at hy
  omega

/-- Every row stands in its slot. -/
theorem getElem?_interlacedRows (hy : y < h) :
    (interlacedRows h)[interlacedSlot h y]? = some y := by
  have hslot {m k : Nat} (hk : k < m) (hmod : y % m = k) :
      ((List.range h).filter fun y => y % m = k)[(y + (m - 1 - k)) / m]? = some y := by
    rw [← count_mod hk]
    exact getElem?_filter_range hy hmod
  have hlen {m k : Nat} (hk : k < m) :
      ((List.range h).filter fun y => y % m = k).length = (h + (m - 1 - k)) / m := by
    rw [length_filter_range, count_mod hk]
  have hlen0 := hlen (m := 8) (k := 0) (by decide)
  have hlen4 := hlen (m := 8) (k := 4) (by decide)
  have hlen2 := hlen (m := 4) (k := 2) (by decide)
  unfold interlacedRows interlacedSlot
  split
  · rename_i h0
    have hs := hslot (by decide) h0
    have hi : y / 8 = (y + (8 - 1 - 0)) / 8 := by omega
    obtain ⟨hb, -⟩ := List.getElem?_eq_some_iff.1 hs
    rw [List.append_assoc, List.append_assoc, hi, List.getElem?_append_left hb]
    exact hs
  split
  · rename_i h4
    have hs := hslot (by decide) h4
    have hi : (h + 7) / 8 + y / 8 = (h + (8 - 1 - 0)) / 8 + (y + (8 - 1 - 4)) / 8 := by omega
    obtain ⟨hb, -⟩ := List.getElem?_eq_some_iff.1 hs
    rw [List.append_assoc, List.append_assoc, hi, ← hlen0,
      List.getElem?_append_right (Nat.le_add_right _ _), Nat.add_sub_cancel_left,
      List.getElem?_append_left hb]
    exact hs
  split
  · rename_i h2
    have hs := hslot (by decide) h2
    have hi : (h + 7) / 8 + (h + 3) / 8 + y / 4 =
        (h + (8 - 1 - 0)) / 8 + (h + (8 - 1 - 4)) / 8 + (y + (4 - 1 - 2)) / 4 := by omega
    obtain ⟨hb, -⟩ := List.getElem?_eq_some_iff.1 hs
    rw [List.append_assoc, hi, ← hlen0, ← hlen4, ← List.length_append,
      List.getElem?_append_right (Nat.le_add_right _ _), Nat.add_sub_cancel_left,
      List.getElem?_append_left hb]
    exact hs
  · have hs := hslot (m := 2) (k := 1) (by decide) (by omega)
    have hi : (h + 7) / 8 + (h + 3) / 8 + (h + 1) / 4 + y / 2 =
        (h + (8 - 1 - 0)) / 8 + (h + (8 - 1 - 4)) / 8 + (h + (4 - 1 - 2)) / 4 +
          (y + (2 - 1 - 1)) / 2 := by omega
    rw [hi, ← hlen0, ← hlen4, ← hlen2, ← List.length_append, ← List.length_append,
      List.getElem?_append_right (Nat.le_add_right _ _), Nat.add_sub_cancel_left]
    exact hs

/-! ## Cells -/

variable {α : Type} (r : Raster α) {x w i : Nat}

theorem length_flatMap {rows : List Nat} {f : Nat → List α}
    (hf : ∀ y ∈ rows, (f y).length = w) : (rows.flatMap f).length = rows.length * w := by
  induction rows with
  | nil => simp
  | cons y rest ih =>
    have hrest := ih fun z hz => hf z (List.mem_cons_of_mem _ hz)
    rw [List.flatMap_cons, List.length_append, hrest, hf y (by simp), List.length_cons,
      Nat.add_mul]
    omega

/-- The cells of rows of one length, one row after the other. -/
theorem getElem?_flatMap {rows : List Nat} {f : Nat → List α}
    (hf : ∀ y ∈ rows, (f y).length = w) (hx : x < w) (hi : rows[i]? = some y) :
    (rows.flatMap f)[i * w + x]? = (f y)[x]? := by
  induction rows generalizing i with
  | nil => cases hi
  | cons z rest ih =>
    have hz : (f z).length = w := hf z (by simp)
    rw [List.flatMap_cons]
    cases i with
    | zero =>
      obtain rfl : z = y := by simpa using hi
      rw [Nat.zero_mul, Nat.zero_add, List.getElem?_append_left (by omega)]
    | succ i =>
      have hrest := ih (fun u hu => hf u (List.mem_cons_of_mem _ hu)) hi
      have hsplit : (i + 1) * w + x = w + (i * w + x) := by
        rw [Nat.add_mul]
        omega
      rw [List.getElem?_append_right (by omega), hz, hsplit, Nat.add_sub_cancel_left]
      exact hrest

theorem length_row (hy : y < r.height) : (r.row y).length = r.width := by
  have hle : (y + 1) * r.width ≤ r.height * r.width := Nat.mul_le_mul_right _ hy
  have hsize := r.size_cells
  rw [Nat.mul_comm] at hsize
  rw [Nat.add_mul, Nat.one_mul] at hle
  simp only [row, Array.length_toList, Array.size_extract]
  omega

theorem getElem?_row (hx : x < r.width) (y : Nat) : (r.row y)[x]? = r.get? x y := by
  rw [row, Array.getElem?_toList, Array.getElem?_extract, get?, if_pos hx]
  split
  · rfl
  · rw [Array.getElem?_eq_none (by omega)]

theorem size_serialize (interlaced : Bool) :
    (r.serialize interlaced).size = r.width * r.height := by
  cases interlaced with
  | false => exact r.size_cells
  | true =>
    have hlen := length_flatMap fun y hy => r.length_row (lt_of_mem_interlacedRows hy)
    simp only [serialize, if_true, List.size_toArray]
    rw [hlen, length_interlacedRows, Nat.mul_comm]

/-- **Reading rows undoes writing them**, in four passes or from top to bottom. -/
theorem deserialize_serialize (interlaced : Bool) (d : α) :
    deserialize r.width r.height interlaced (r.serialize interlaced) d = r := by
  refine ext_get? rfl rfl fun x y (hx : x < r.width) (hy : y < r.height) => ?_
  have hcell : (r.serialize interlaced)[(if interlaced then interlacedSlot r.height y else y) *
      r.width + x]? = r.get? x y := by
    cases interlaced with
    | false => exact (if_pos hx).symm
    | true =>
      simp only [serialize, if_true, List.getElem?_toArray]
      rw [getElem?_flatMap (fun z hz => r.length_row (lt_of_mem_interlacedRows hz)) hx
        (getElem?_interlacedRows hy)]
      exact r.getElem?_row hx y
  rw [deserialize, get?_ofFn hx hy, Array.getD_eq_getD_getElem?, hcell,
    r.get?_eq_some_cell hx hy]
  rfl

end Portrait.Raster
