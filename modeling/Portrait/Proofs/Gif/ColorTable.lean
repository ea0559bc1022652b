import Mathlib.Algebra.Group.Nat.Defs
import Mathlib.Data.Nat.Log
import Portrait.Gif.Animation

/-!
# Written color tables

An animation writes the palette of every frame as a color table of its own: filled up with black to
a power of two, and never to fewer than four entries. The table has the size that its exponent
announces, and shows the same colours as the palette.

* `Whole`, `Full` — palettes of whole triplets, and palettes that fill a color table.
* `padded` — a palette as an animation writes it.
* `descriptor_bits` — what a reader sees in the packed byte of an image.

Main statement: `Frame.toRgba_padded` — a frame keeps its colours with the padded palette.
-/

set_option autoImplicit false

namespace Portrait.Gif

namespace ColorTable

variable {palette : Bytes} {n k : Nat}

/-- A palette of `n` whole triplets that fit a color table. -/
structure Whole (palette : Bytes) (n : Nat) : Prop where
  pos : 0 < n
  le : n ≤ maxEntries
  length : palette.length = 3 * n

/-- A palette that fills the color table with exponent field `k`. -/
structure Full (palette : Bytes) (k : Nat) : Prop where
  lt : k < 8
  length : palette.length = 3 * 2 ^ (k + 1)

theorem Whole.entries (h : Whole palette n) : palette.length / 3 = n := by
  rw [h.length]
  omega

/-! ## Full tables -/

namespace Full

theorem sizeBits_eq (h : Full palette k) : sizeBits palette = k := by
  have hpow : 2 ^ (k + 1) = 2 * 2 ^ k := Nat.pow_succ'
  have hpos := Nat.two_pow_pos k
  have hentries : palette.length / 3 = 2 ^ (k + 1) := by
    rw [h.length]
    omega
  rw [sizeBits, hentries, Nat.max_eq_left (by omega), Nat.log2_eq_iff (by omega)]
  omega

theorem pad_eq (h : Full palette k) : pad palette = palette := by
  have hsize : paddedSize palette = palette.length := by
    rw [paddedSize, h.sizeBits_eq, Nat.one_shiftLeft, h.length]
  rw [pad, hsize, Nat.sub_self]
  exact List.append_nil palette

theorem ne_nil (h : Full palette k) : palette ≠ [] := by
  rintro rfl
  have hpos := Nat.two_pow_pos (k + 1)
  have hlength := h.length
  simp only [List.length_nil] at hlength
  omega

theorem whole (h : Full palette k) : Whole palette (2 ^ (k + 1)) where
  pos := Nat.two_pow_pos (k + 1)
  le := Nat.pow_le_pow_right (by decide) h.lt
  length := h.length

end Full

/-- What a reader sees in the packed byte of an image with a local color table. -/
theorem descriptor_bits (interlaced : Bool) (hk : k < 8) :
    let packed : UInt8 :=
      (if interlaced then interlaceFlag else 0) ||| (colorTableFlag ||| UInt8.ofNat k)
    packed &&& colorTableFlag ≠ 0 ∧ decide (packed &&& interlaceFlag ≠ 0) = interlaced ∧
      byteSize packed = 3 * 2 ^ (k + 1) := by
  have hall : ∀ (interlaced : Bool) (k : Fin 8),
      let packed : UInt8 :=
        (if interlaced then interlaceFlag else 0) ||| (colorTableFlag ||| UInt8.ofNat k)
      packed &&& colorTableFlag ≠ 0 ∧ decide (packed &&& interlaceFlag ≠ 0) = interlaced ∧
        byteSize packed = 3 * 2 ^ (k.val + 1) := by
    decide
  exact hall interlaced ⟨k, hk⟩

/-! ## Padded palettes -/

/-- The number of entries of the color table for `n` entries: the smallest power of two that is at
least `n` and four. -/
def padEntries (n : Nat) : Nat := 2 ^ Nat.clog 2 (max 4 n)

/-- The palette as an animation writes it, filled up with black. -/
def padded (palette : Bytes) : Bytes :=
  palette ++ List.replicate (3 * (padEntries (palette.length / 3) - palette.length / 3)) 0

theorem le_padEntries (n : Nat) : n ≤ padEntries n :=
  Nat.le_trans (Nat.le_max_right 4 n) (Nat.le_pow_clog (by decide) _)

theorem tableEntries_eq (hn : 0 < n) : tableEntries n = padEntries n := by
  unfold tableEntries padEntries
  rw [if_neg (by omega)]
  split
  · have hmax : max 4 n = 2 ^ 2 := by omega
    rw [hmax, Nat.clog_pow 2 2 (by decide)]
    rfl
  · rename_i h3
    rw [Nat.one_shiftLeft]
    congr 1
    obtain ⟨hle, hlt⟩ := (Nat.log2_eq_iff (by omega : n - 1 ≠ 0)).1 rfl
    have hlog : 1 ≤ Nat.log2 (n - 1) := by
      by_contra h0
      rw [Nat.lt_one_iff.1 (Nat.not_le.1 h0)] at hlt
      omega
    have hfour : 2 ^ 2 ≤ 2 ^ (Nat.log2 (n - 1) + 1) :=
      Nat.pow_le_pow_right (by decide) (by omega)
    apply Nat.le_antisymm
    · exact (Nat.lt_clog_iff_pow_lt (by decide)).2 (by omega)
    · exact Nat.clog_le_of_le_pow (by omega)

theorem writtenPalette_eq (h : Whole palette n) : writtenPalette palette = padded palette := by
  have htake : palette.take (3 * n) = palette := List.take_of_length_le (Nat.le_of_eq h.length)
  simp only [writtenPalette, padded, h.entries, htake, tableEntries_eq h.pos]

theorem full_padded (h : Whole palette n) : ∃ k, Full (padded palette) k := by
  have hlog : 0 < Nat.clog 2 (max 4 n) := Nat.clog_pos (by decide) (by omega)
  have hle : Nat.clog 2 (max 4 n) ≤ 8 := by
    apply Nat.clog_le_of_le_pow
    have := h.le
    simp only [maxEntries] at this
    omega
  have hpad := le_padEntries n
  refine ⟨Nat.clog 2 (max 4 n) - 1, by omega, ?_⟩
  rw [padded, h.entries, List.length_append, List.length_replicate, h.length,
    Nat.sub_add_cancel hlog]
  change 3 * n + 3 * (padEntries n - n) = 3 * padEntries n
  omega

/-! ## Colours -/

theorem exists_triplet (h : palette.length = 3 * (n + 1)) :
    ∃ r g b rest, palette = r :: g :: b :: rest ∧ rest.length = 3 * n := by
  match palette, h with
  | r :: g :: b :: rest, h =>
    refine ⟨r, g, b, rest, rfl, ?_⟩
    simp only [List.length_cons] at h
    omega
  | [], h => simp at h
  | [_], h => simp at h; omega
  | [_, _], h => simp at h; omega

theorem triplets_append (more : Bytes) (h : palette.length = 3 * n) :
    triplets (palette ++ more) = triplets palette ++ triplets more := by
  induction n generalizing palette with
  | zero =>
    obtain rfl := List.eq_nil_of_length_eq_zero h
    rfl
  | succ n ih =>
    obtain ⟨r, g, b, rest, rfl, hrest⟩ := exists_triplet h
    simp only [List.cons_append, triplets, ih hrest]

theorem length_triplets (h : palette.length = 3 * n) : (triplets palette).length = n := by
  induction n generalizing palette with
  | zero =>
    obtain rfl := List.eq_nil_of_length_eq_zero h
    rfl
  | succ n ih =>
    obtain ⟨r, g, b, rest, rfl, hrest⟩ := exists_triplet h
    simp only [triplets, List.length_cons, ih hrest]

theorem triplets_black (n : Nat) :
    triplets (List.replicate (3 * n) 0) = List.replicate n (0, 0, 0) := by
  induction n with
  | zero => rfl
  | succ n ih =>
    have hn : 3 * (n + 1) = 3 * n + 1 + 1 + 1 := by omega
    simp only [hn, List.replicate_succ, triplets, ih]

theorem triplets_padded (h : Whole palette n) :
    triplets (padded palette) =
      triplets palette ++ List.replicate (padEntries n - n) (0, 0, 0) := by
  rw [padded, h.entries, triplets_append _ h.length, triplets_black]

/-- A palette and the palette followed by black show the same colours. -/
theorem paletteColor_black (entries : List (UInt8 × UInt8 × UInt8)) (m : Nat)
    (transparency : Option Int) :
    paletteColor (entries ++ List.replicate m (0, 0, 0)).toArray transparency =
      paletteColor entries.toArray transparency := by
  have hget (i : Nat) : (entries ++ List.replicate m (0, 0, 0)).toArray.getD i (0, 0, 0) =
      entries.toArray.getD i (0, 0, 0) := by
    rw [Array.getD_eq_getD_getElem?, Array.getD_eq_getD_getElem?, List.getElem?_toArray,
      List.getElem?_toArray, List.getElem?_append]
    split
    · rfl
    · rename_i hi
      rw [List.getElem?_eq_none (by omega : entries.length ≤ i), List.getElem?_replicate]
      split <;> rfl
  funext index
  simp only [paletteColor, hget]

end ColorTable

/-! ## Frames -/

/-- A transparent index that is a byte, or none. -/
def FitsByte (t : Option Int) : Prop := ∀ i, t = some i → 0 ≤ i ∧ i < 256

namespace Frame

open ColorTable

variable {f : Frame} {n : Nat}

/-- The frame with its palette as an animation writes it. -/
def padded (f : Frame) : Frame := { f with palette := ColorTable.padded f.palette }

/-- Few enough entries and a byte as transparent index make the colours known. -/
theorem toRgba_eq (h : Whole f.palette n) (ht : FitsByte f.transparency) :
    f.toRgba = .ok (f.image.map (paletteColor (triplets f.palette).toArray f.transparency)) := by
  have hsize : ¬ maxEntries < (triplets f.palette).toArray.size := by
    rw [List.size_toArray, length_triplets h.length]
    exact Nat.not_lt.2 h.le
  unfold toRgba
  rw [if_neg hsize]
  cases htr : f.transparency with
  | none => rfl
  | some t => exact if_pos (ht t htr)

/-- **A frame keeps its colours with the padded palette**, also those of indices beyond the
original one. -/
theorem toRgba_padded (h : Whole f.palette n) (ht : FitsByte f.transparency) :
    f.padded.toRgba = f.toRgba := by
  obtain ⟨k, hk⟩ := full_padded h
  have hpadded : f.padded.toRgba = _ := toRgba_eq (f := f.padded) hk.whole ht
  rw [hpadded, toRgba_eq h ht]
  simp only [padded, triplets_padded h, paletteColor_black]

end Frame

end Portrait.Gif
