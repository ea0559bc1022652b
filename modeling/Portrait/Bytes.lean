/-!
# Byte strings

Everything that enters or leaves the library as raw data is a list of bytes. This module holds the
few operations that the container formats share:

* `Bytes.takeExact` — the next `n` bytes, or nothing when fewer are left.
* `Bytes.ofLE`, `Bytes.ofBE` — the number that little-endian or big-endian bytes spell.
* `Bytes.toLE`, `Bytes.toBE` — its spelling in a fixed number of bytes.

Main statements: `takeExact` splits its argument (`takeExact_eq_some`), and reading undoes writing
(`ofLE_toLE`).
-/

namespace Portrait

abbrev Bytes := List UInt8

namespace Bytes

/-- The first `n` bytes and the rest, or `none` when there are fewer than `n`. -/
def takeExact (n : Nat) (bs : Bytes) : Option (Bytes × Bytes) :=
  if (bs.take n).length = n then some (bs.take n, bs.drop n) else none

theorem takeExact_eq_some {n : Nat} {bs head rest : Bytes} :
    takeExact n bs = some (head, rest) ↔ bs = head ++ rest ∧ head.length = n := by
  unfold takeExact
  constructor
  · intro h
    split at h
    · rename_i hl
      simp only [Option.some.injEq, Prod.mk.injEq] at h
      obtain ⟨rfl, rfl⟩ := h
      exact ⟨(List.take_append_drop n bs).symm, hl⟩
    · cases h
  · rintro ⟨rfl, rfl⟩
    simp

theorem length_of_takeExact {n : Nat} {bs head rest : Bytes}
    (h : takeExact n bs = some (head, rest)) : bs.length = n + rest.length := by
  obtain ⟨rfl, rfl⟩ := takeExact_eq_some.1 h
  simp

/-- The number whose base-256 digits are `bs`, least significant first. -/
def ofLE : Bytes → Nat
  | [] => 0
  | b :: bs => b.toNat + 256 * ofLE bs

/-- The number whose base-256 digits are `bs`, most significant first. -/
def ofBE (bs : Bytes) : Nat := bs.foldl (fun acc b => acc * 256 + b.toNat) 0

/-- The `k` low base-256 digits of `n`, least significant first. -/
def toLE : Nat → Nat → Bytes
  | 0, _ => []
  | k + 1, n => UInt8.ofNat n :: toLE k (n / 256)

/-- The `k` low base-256 digits of `n`, most significant first. -/
def toBE (k n : Nat) : Bytes := (toLE k n).reverse

theorem ofLE_toLE {k n : Nat} (h : n < Nat.pow 256 k) : ofLE (toLE k n) = n := by
  induction k generalizing n with
  | zero => simp at h; simp [toLE, ofLE, h]
  | succ k ih =>
    have hk : n / 256 < Nat.pow 256 k := by
      rw [Nat.div_lt_iff_lt_mul (by decide)]
      exact h
    simp only [toLE, ofLE, ih hk]
    have : (UInt8.ofNat n).toNat = n % 256 := by simp
    rw [this]
    omega

/-- The `n` bytes at offset `i`, if the string reaches that far. -/
def slice? (bs : Bytes) (i n : Nat) : Option Bytes := (takeExact n (bs.drop i)).map (·.1)

/-- The 16-bit little-endian number at offset `i`. -/
def u16LE? (bs : Bytes) (i : Nat) : Option Nat := (slice? bs i 2).map ofLE

/-- The 32-bit little-endian number at offset `i`. -/
def u32LE? (bs : Bytes) (i : Nat) : Option Nat := (slice? bs i 4).map ofLE

/-- The 16-bit big-endian number at offset `i`. -/
def u16BE? (bs : Bytes) (i : Nat) : Option Nat := (slice? bs i 2).map ofBE

/-- The UTF-8 bytes of a text. -/
def ofString (s : String) : Bytes := s.toUTF8.toList

end Bytes

end Portrait
