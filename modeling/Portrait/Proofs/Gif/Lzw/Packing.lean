import Mathlib.Tactic.Ring
import Portrait.Bits
import Portrait.Gif.Lzw.Encoder

/-!
# Codes as one number

A sequence of codes of different widths, packed from the lowest bit of each byte upwards, spells one
number. Packing and reading are both understood through it.

* `streamValue`, `streamWidth` — the number that codes spell, and its width in bits.
* `pack_eq` — packed bytes spell the number of their codes, and are long enough for it.
* `Bits.take_eq` — taking a code from a buffer and bytes divides the number that is left.
-/

set_option autoImplicit false

namespace Portrait

/-! ## Taking codes -/

namespace Bytes

theorem ofLE_append (a b : Bytes) : ofLE (a ++ b) = ofLE a + 256 ^ a.length * ofLE b := by
  induction a with
  | nil => simp [ofLE]
  | cons x a ih =>
    simp only [List.cons_append, ofLE, ih, List.length_cons]
    ring

end Bytes

namespace Bits

/-- The bits above a buffer do not matter for what is taken from it, and stay above what is left. -/
theorem split_low {width count : Nat} (acc high : Nat) (hw : width ≤ count) :
    (acc + 2 ^ count * high) % 2 ^ width = acc % 2 ^ width ∧
      (acc + 2 ^ count * high) / 2 ^ width = acc / 2 ^ width + 2 ^ (count - width) * high := by
  obtain ⟨k, rfl⟩ := Nat.exists_eq_add_of_le hw
  have hsplit : acc + 2 ^ (width + k) * high = acc + 2 ^ width * (2 ^ k * high) := by ring
  rw [hsplit, Nat.add_mul_mod_self_left, Nat.add_mul_div_left _ _ (Nat.two_pow_pos width),
    Nat.add_sub_cancel_left]
  exact ⟨rfl, rfl⟩

theorem take_buffered {width acc count : Nat} {bs : Bytes} (hw : width ≤ count) :
    take width acc count bs = some (acc % 2 ^ width, acc / 2 ^ width, count - width, bs) := by
  unfold take
  rw [if_pos hw, Nat.one_shiftLeft, Nat.shiftRight_eq_div_pow]

/-- Taking a code leaves the quotient of the number that buffer and bytes spell. -/
theorem take_eq (width : Nat) {acc count : Nat} (bs : Bytes) (hacc : acc < 2 ^ count)
    (hw : width ≤ count + 8 * bs.length) :
    ∃ acc' count' bs', take width acc count bs =
        some ((acc + 2 ^ count * Bytes.ofLE bs) % 2 ^ width, acc', count', bs') ∧
      acc' < 2 ^ count' ∧
      acc' + 2 ^ count' * Bytes.ofLE bs' = (acc + 2 ^ count * Bytes.ofLE bs) / 2 ^ width := by
  induction bs generalizing acc count with
  | nil =>
    have hwc : width ≤ count := by simpa using hw
    obtain ⟨hm, hd⟩ := split_low acc (Bytes.ofLE []) hwc
    refine ⟨_, _, _, ?_, ?_, hd.symm⟩
    · rw [hm]
      exact take_buffered hwc
    · exact Nat.div_lt_of_lt_mul (by rwa [← pow_add, Nat.add_sub_cancel' hwc])
  | cons b rest ih =>
    by_cases hwc : width ≤ count
    · obtain ⟨hm, hd⟩ := split_low acc (Bytes.ofLE (b :: rest)) hwc
      refine ⟨_, _, _, ?_, ?_, hd.symm⟩
      · rw [hm]
        exact take_buffered hwc
      · exact Nat.div_lt_of_lt_mul (by rwa [← pow_add, Nat.add_sub_cancel' hwc])
    · have hacc' : acc + b.toNat * 2 ^ count < 2 ^ (count + 8) := by
        have hb := b.toNat_lt
        have : (b.toNat + 1) * 2 ^ count ≤ 256 * 2 ^ count := Nat.mul_le_mul_right _ hb
        rw [pow_add]
        rw [Nat.add_mul] at this
        omega
      obtain ⟨acc', count', bs', ht, hlt, hv⟩ :=
        ih hacc' (by simp only [List.length_cons] at hw; omega)
      have hvalue : acc + b.toNat * 2 ^ count + 2 ^ (count + 8) * Bytes.ofLE rest =
          acc + 2 ^ count * Bytes.ofLE (b :: rest) := by
        simp only [Bytes.ofLE]
        ring
      rw [hvalue] at ht hv
      refine ⟨acc', count', bs', ?_, hlt, hv⟩
      rw [← Nat.shiftLeft_eq] at ht
      unfold take
      rw [if_neg hwc]
      exact ht

end Bits

/-! ## Packing codes -/

namespace Gif.Lzw

/-- The number that codes spell, each of them given with its width. -/
def streamValue : List (Nat × Nat) → Nat
  | [] => 0
  | (code, width) :: rest => code + 2 ^ width * streamValue rest

/-- The number of bits that codes take. -/
def streamWidth : List (Nat × Nat) → Nat
  | [] => 0
  | (_, width) :: rest => width + streamWidth rest

/-- Every code fits its width. -/
def Fits (cs : List (Nat × Nat)) : Prop := ∀ c ∈ cs, c.1 < 2 ^ c.2

theorem fits_nil : Fits [] := by simp [Fits]

theorem fits_cons {code width : Nat} {cs : List (Nat × Nat)} :
    Fits ((code, width) :: cs) ↔ code < 2 ^ width ∧ Fits cs := List.forall_mem_cons

theorem fits_append {cs ds : List (Nat × Nat)} : Fits (cs ++ ds) ↔ Fits cs ∧ Fits ds :=
  List.forall_mem_append

/-- Moving whole bytes out of the buffer changes neither the number nor its width. -/
theorem flush_eq (acc count : Nat) (out : Array UInt8) (hacc : acc < 2 ^ count) :
    ∃ acc' count' out', flush acc count out = (acc', count', out') ∧
      acc' < 2 ^ count' ∧ count' < 8 ∧ 8 * out'.size + count' = 8 * out.size + count ∧
      Bytes.ofLE out'.toList + 256 ^ out'.size * acc' =
        Bytes.ofLE out.toList + 256 ^ out.size * acc := by
  fun_induction flush acc count out with
  | case1 acc count out hc ih =>
    have hlt : acc / 256 < 2 ^ (count - 8) := by
      refine Nat.div_lt_of_lt_mul ?_
      rw [show (256 : Nat) = 2 ^ 8 from rfl, ← pow_add, Nat.add_sub_cancel' hc]
      exact hacc
    obtain ⟨acc', count', out', he, ha, hlt8, hsize, hv⟩ := ih hlt
    refine ⟨acc', count', out', he, ha, hlt8, ?_, ?_⟩
    · rw [hsize, Array.size_push]
      omega
    · have hmod : acc % 256 + 256 * (acc / 256) = acc := Nat.mod_add_div acc 256
      rw [hv, Array.toList_push, Bytes.ofLE_append, Array.size_push, Array.length_toList]
      simp only [Bytes.ofLE, UInt8.toNat_ofNat', Nat.reducePow]
      calc Bytes.ofLE out.toList + 256 ^ out.size * (acc % 256 + 256 * 0) +
            256 ^ (out.size + 1) * (acc / 256)
          = Bytes.ofLE out.toList + 256 ^ out.size * (acc % 256 + 256 * (acc / 256)) := by ring
        _ = Bytes.ofLE out.toList + 256 ^ out.size * acc := by rw [hmod]
  | case2 acc count out hc => exact ⟨acc, count, out, rfl, hacc, by omega, rfl, rfl⟩

/-- **Packed bytes spell the number of their codes**, above what the output and the buffer held
before, and they are long enough for it. -/
theorem pack_eq {acc count : Nat} (cs : List (Nat × Nat)) (out : Array UInt8) (hfits : Fits cs)
    (hacc : acc < 2 ^ count) (hcount : count < 8) :
    Bytes.ofLE (pack cs acc count out).toList =
        Bytes.ofLE out.toList + 256 ^ out.size * (acc + 2 ^ count * streamValue cs) ∧
      8 * out.size + count + streamWidth cs ≤ 8 * (pack cs acc count out).size := by
  induction cs generalizing acc count out with
  | nil =>
    simp only [pack, streamValue, streamWidth, Nat.mul_zero, Nat.add_zero]
    split
    · rename_i h0
      subst h0
      obtain rfl : acc = 0 := by simpa using hacc
      exact ⟨by simp, by omega⟩
    · have hsmall : acc < 2 ^ 8 :=
        Nat.lt_of_lt_of_le hacc (Nat.pow_le_pow_right (by decide) (Nat.le_of_lt hcount))
      rw [Array.toList_push, Bytes.ofLE_append, Array.size_push, Array.length_toList]
      simp only [Bytes.ofLE, UInt8.toNat_ofNat', Nat.mod_eq_of_lt hsmall]
      exact ⟨by simp, by omega⟩
  | cons c rest ih =>
    obtain ⟨code, width⟩ := c
    obtain ⟨hcode, hrest⟩ := fits_cons.1 hfits
    have hbuf : acc + code <<< count < 2 ^ (count + width) := by
      rw [Nat.shiftLeft_eq]
      have : (code + 1) * 2 ^ count ≤ 2 ^ width * 2 ^ count := Nat.mul_le_mul_right _ hcode
      rw [pow_add, Nat.mul_comm (2 ^ count)]
      rw [Nat.add_mul] at this
      omega
    obtain ⟨acc', count', out', he, ha, hlt8, hsize, hv⟩ := flush_eq _ _ out hbuf
    obtain ⟨hvalue, hlen⟩ := ih out' hrest ha hlt8
    simp only [pack, he, streamValue, streamWidth]
    constructor
    · have hpow : 256 ^ out'.size * 2 ^ count' = 256 ^ out.size * (2 ^ count * 2 ^ width) := by
        rw [show (256 : Nat) = 2 ^ 8 from rfl, ← pow_mul, ← pow_mul, ← pow_add, ← pow_add,
          ← pow_add, hsize]
      rw [Nat.shiftLeft_eq] at hv
      calc Bytes.ofLE (pack rest acc' count' out').toList
          = Bytes.ofLE out'.toList + 256 ^ out'.size * (acc' + 2 ^ count' * streamValue rest) :=
            hvalue
        _ = (Bytes.ofLE out'.toList + 256 ^ out'.size * acc') +
            256 ^ out'.size * 2 ^ count' * streamValue rest := by ring
        _ = Bytes.ofLE out.toList + 256 ^ out.size *
            (acc + 2 ^ count * (code + 2 ^ width * streamValue rest)) := by
            rw [hv, hpow]; ring
    · omega

end Gif.Lzw

end Portrait
