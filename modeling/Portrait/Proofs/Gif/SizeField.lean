import Portrait.Proofs.Gif.ColorTable

/-!
# The size field of a color table

A packed byte announces its color table by an exponent. The exponent for a palette is found through
the number of binary digits, with two entries as the least table; this module says what it means for
palettes of any number of entries, also of more than a color table holds.

* `sizeBits_le_iff` — the size field is the least exponent whose table holds all entries.
* `two_pow_sizeBits_lt` — no smaller table does.
* `length_pad`, `pad?_eq` — the table, and that there always is one.
* `full_pad` — a palette that a color table holds becomes a full one.

Main statement: `smallest_table`.
-/

set_option autoImplicit false

namespace Portrait.Gif.ColorTable

variable {palette : Bytes} {n k : Nat}

/-! ## The exponent -/

/-- The size field is the least exponent whose table holds all entries. -/
theorem sizeBits_le_iff (h : palette.length = 3 * n) :
    sizeBits palette ≤ k ↔ max n 2 ≤ 2 ^ (k + 1) := by
  have hentries : palette.length / 3 = n := by omega
  rw [sizeBits, hentries, ← Nat.lt_succ_iff, Nat.log2_lt (by omega)]
  omega

/-- Every table holds two entries. -/
theorem max_two_le_iff : max n 2 ≤ 2 ^ (k + 1) ↔ n ≤ 2 ^ (k + 1) := by
  have htwo : 2 ^ 1 ≤ 2 ^ (k + 1) := Nat.pow_le_pow_right (by decide) (by omega)
  omega

theorem le_two_pow_sizeBits (h : palette.length = 3 * n) :
    max n 2 ≤ 2 ^ (sizeBits palette + 1) :=
  (sizeBits_le_iff h).1 (Nat.le_refl _)

/-- No smaller table holds all entries. -/
theorem two_pow_sizeBits_lt (h : palette.length = 3 * n) : 2 ^ sizeBits palette < max n 2 := by
  cases hbits : sizeBits palette with
  | zero => omega
  | succ k =>
    by_contra hsmaller
    have hle : sizeBits palette ≤ k := (sizeBits_le_iff h).2 (Nat.not_lt.1 hsmaller)
    omega

/-! ## The table -/

theorem paddedSize_eq (palette : Bytes) : paddedSize palette = 3 * 2 ^ (sizeBits palette + 1) := by
  rw [paddedSize, Nat.one_shiftLeft]

theorem byteSize_eq (packed : UInt8) : byteSize packed = 3 * 2 ^ (packed.toNat % 8 + 1) := by
  rw [byteSize, Nat.one_shiftLeft]

theorem length_le_paddedSize (h : palette.length = 3 * n) : palette.length ≤ paddedSize palette := by
  have hholds := le_two_pow_sizeBits h
  rw [paddedSize_eq]
  omega

/-- Whole triplets never stick out of their table. -/
theorem pad?_eq (h : palette.length = 3 * n) : pad? palette = some (pad palette) :=
  if_pos (length_le_paddedSize h)

theorem length_pad (h : palette.length = 3 * n) :
    (pad palette).length = 3 * 2 ^ (sizeBits palette + 1) := by
  have hsize := length_le_paddedSize h
  rw [pad, List.length_append, List.length_replicate, ← paddedSize_eq]
  omega

/-- A palette that a color table holds becomes a full one. -/
theorem full_pad (h : Whole palette n) : Full (pad palette) (sizeBits palette) where
  lt := by
    have hmax := h.le
    simp only [maxEntries] at hmax
    exact Nat.lt_succ_of_le ((sizeBits_le_iff h.length).2 (by omega))
  length := length_pad h.length

/-- **The size field is that of the smallest table that holds the palette**, and the table has
exactly the size that a packed byte with this field announces. The field has its three bits as long
as there are no more than 256 entries. -/
theorem smallest_table (h : palette.length = 3 * n) :
    (max n 2 ≤ 2 ^ (sizeBits palette + 1) ∧ 2 ^ sizeBits palette < max n 2) ∧
    pad? palette = some (pad palette) ∧
    pad palette = palette ++ List.replicate (3 * (2 ^ (sizeBits palette + 1) - n)) 0 ∧
    (pad palette).length = 3 * 2 ^ (sizeBits palette + 1) ∧
    (sizeBits palette ≤ 7 ↔ n ≤ 256) ∧
    (sizeBits palette ≤ 7 → ∀ packed : UInt8, packed.toNat % 8 = sizeBits palette →
      byteSize packed = (pad palette).length) := by
  refine ⟨⟨le_two_pow_sizeBits h, two_pow_sizeBits_lt h⟩, pad?_eq h, ?_, length_pad h, ?_, ?_⟩
  · rw [pad, paddedSize_eq, h, Nat.mul_sub]
  · rw [sizeBits_le_iff h]
    exact max_two_le_iff
  · intro _ packed hpacked
    rw [byteSize_eq, hpacked, length_pad h]

/-- A palette with one entry more than the second largest table holds. -/
def ashen : Bytes := List.replicate (3 * 129) 0x80

/-- The hypotheses of `smallest_table` hold of a palette that needs the largest table. -/
theorem ashen_smallest_table :
    ashen.length = 3 * 129 ∧ sizeBits ashen = 7 ∧ (pad ashen).length = 768 ∧
      ∀ packed : UInt8, packed.toNat % 8 = 7 → byteSize packed = 768 := by
  have hlength : ashen.length = 3 * 129 := List.length_replicate
  obtain ⟨-, -, -, htable, hfits, hannounced⟩ := smallest_table hlength
  have hbits : sizeBits ashen = 7 := by
    rw [sizeBits, hlength]
    decide
  rw [hbits] at htable hfits hannounced
  refine ⟨hlength, hbits, htable, fun packed hpacked => ?_⟩
  rw [hannounced (hfits.2 (by decide)) packed hpacked, htable]
  rfl

end Portrait.Gif.ColorTable
