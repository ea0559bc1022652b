import Mathlib.Data.List.Basic
import Portrait.Text.Base64

/-!
# Base 64 and back

What is written in either form is read back, and how long it is.

* `Alphabet` — six bits and their character determine each other, and none is the padding.
* `run_groups` — reading groups of characters gives the bytes they were written for.
* `Reader.Holds` — how far a reader is after a number of characters.

Main statements: `decode?_encode` for the standard form and `decodeUrl?_encodeUrl` for the form for
addresses, and `length_of_decode?` for all texts that can be read.
-/

set_option autoImplicit false

namespace Portrait.Base64

/-- The characters of an alphabet can be told apart from each other and from the padding. -/
structure Alphabet (last : UInt8 × UInt8) : Prop where
  value : ∀ v < 64, value? last (symbol last v) = some v
  ne_pad : ∀ v < 64, symbol last v ≠ pad

theorem standard_alphabet : Alphabet standard := ⟨by decide, by decide⟩

theorem url_alphabet : Alphabet url := ⟨by decide, by decide⟩

variable {last : UInt8 × UInt8} {padding : Bytes}

/-! ## Reading what was written -/

theorem Reader.run_symbol (h : Alphabet last) {v : Nat} (hv : v < 64) {r : Reader}
    (hr : r.padded = false) (rest : Bytes) :
    r.run last (symbol last v :: rest) = (r.push v).run last rest := by
  rw [Reader.run, if_neg (h.ne_pad v hv), h.value v hv]
  simp only [hr]
  rfl

theorem ofNat_eq {n : Nat} {b : UInt8} (h : n = b.toNat) : UInt8.ofNat n = b := by
  rw [h, UInt8.ofNat_toNat]

/-- Reading padded groups gives the bytes they were written for, after those that were read before. -/
theorem run_groups (h : Alphabet last) (bs : Bytes) (out : Array UInt8) :
    Reader.run last { bytes := out } (groups last [pad] bs) = some (out.toList ++ bs) := by
  induction bs using groups.induct generalizing out with
  | case1 => simp [groups, Reader.run]
  | case2 a =>
    have ha : a.toNat < 256 := a.toNat_lt
    simp only [groups, List.cons_append, List.nil_append]
    rw [Reader.run_symbol h (by omega) rfl, Reader.run_symbol h (by omega) rfl]
    have hbyte : UInt8.ofNat (a.toNat / 4 * 4 + a.toNat % 4 * 16 / 16) = a := ofNat_eq (by omega)
    simp only [Reader.push, hbyte]
    simp [Reader.run, Reader.endsWithPad, Reader.skipPad]
  | case3 a b =>
    have ha : a.toNat < 256 := a.toNat_lt
    have hb : b.toNat < 256 := b.toNat_lt
    rw [groups, List.cons_append, List.cons_append, List.cons_append, List.nil_append,
      Reader.run_symbol h (by omega) rfl, Reader.run_symbol h (by omega) rfl,
      Reader.run_symbol h (by omega) rfl]
    have hfirst : UInt8.ofNat (a.toNat / 4 * 4 + (a.toNat % 4 * 16 + b.toNat / 16) / 16) = a :=
      ofNat_eq (by omega)
    have hsecond : UInt8.ofNat
        ((a.toNat % 4 * 16 + b.toNat / 16) % 16 * 16 + b.toNat % 16 * 4 / 4) = b :=
      ofNat_eq (by omega)
    simp only [Reader.push, hfirst, hsecond]
    simp [Reader.run, Reader.endsWithPad]
  | case4 a b c rest ih =>
    have ha : a.toNat < 256 := a.toNat_lt
    have hb : b.toNat < 256 := b.toNat_lt
    have hc : c.toNat < 256 := c.toNat_lt
    rw [groups, Reader.run_symbol h (by omega) rfl, Reader.run_symbol h (by omega) rfl,
      Reader.run_symbol h (by omega) rfl, Reader.run_symbol h (by omega) rfl]
    have hfirst : UInt8.ofNat (a.toNat / 4 * 4 + (a.toNat % 4 * 16 + b.toNat / 16) / 16) = a :=
      ofNat_eq (by omega)
    have hsecond : UInt8.ofNat ((a.toNat % 4 * 16 + b.toNat / 16) % 16 * 16 +
        (b.toNat % 16 * 4 + c.toNat / 64) / 4) = b := ofNat_eq (by omega)
    have hthird : UInt8.ofNat ((b.toNat % 16 * 4 + c.toNat / 64) % 4 * 64 + c.toNat % 64) = c :=
      ofNat_eq (by omega)
    simp only [Reader.push, hfirst, hsecond, hthird]
    rw [ih]
    simp

/-! ## Written forms -/

theorem length_groups_padded (bs : Bytes) :
    (groups last [pad] bs).length = 4 * ((bs.length + 2) / 3) := by
  induction bs using groups.induct with
  | case1 => simp [groups]
  | case2 a => simp [groups]
  | case3 a b => simp [groups]
  | case4 a b c rest ih =>
    simp only [groups, List.length_cons, ih]
    omega

/-- The padding is what is missing to whole groups. -/
theorem groups_append_pad (bs : Bytes) :
    groups last [] bs ++ List.replicate ((4 - (groups last [] bs).length % 4) % 4) pad =
      groups last [pad] bs := by
  induction bs using groups.induct with
  | case1 => simp [groups]
  | case2 a => simp [groups, List.replicate]
  | case3 a b => simp [groups]
  | case4 a b c rest ih =>
    simp only [groups, List.length_cons, List.cons_append]
    rw [show (groups last [] rest).length + 1 + 1 + 1 + 1 = (groups last [] rest).length + 4 from rfl,
      Nat.add_mod_right, ih]

/-- Every character is one for six bits, or padding. -/
theorem mem_groups {c : UInt8} {bs : Bytes} (h : c ∈ groups last padding bs) :
    (∃ v < 64, c = symbol last v) ∨ c ∈ padding := by
  induction bs using groups.induct with
  | case1 => simp [groups] at h
  | case2 a =>
    have ha : a.toNat < 256 := a.toNat_lt
    simp only [groups, List.cons_append, List.nil_append, List.mem_cons, List.mem_append] at h
    rcases h with rfl | rfl | hp | hp
    · exact .inl ⟨_, by omega, rfl⟩
    · exact .inl ⟨_, by omega, rfl⟩
    · exact .inr hp
    · exact .inr hp
  | case3 a b =>
    have ha : a.toNat < 256 := a.toNat_lt
    have hb : b.toNat < 256 := b.toNat_lt
    simp only [groups, List.cons_append, List.nil_append, List.mem_cons] at h
    rcases h with rfl | rfl | rfl | hp
    · exact .inl ⟨_, by omega, rfl⟩
    · exact .inl ⟨_, by omega, rfl⟩
    · exact .inl ⟨_, by omega, rfl⟩
    · exact .inr hp
  | case4 a b c rest ih =>
    have ha : a.toNat < 256 := a.toNat_lt
    have hb : b.toNat < 256 := b.toNat_lt
    have hc : c.toNat < 256 := c.toNat_lt
    simp only [groups, List.mem_cons] at h
    rcases h with rfl | rfl | rfl | rfl | hrest
    · exact .inl ⟨_, by omega, rfl⟩
    · exact .inl ⟨_, by omega, rfl⟩
    · exact .inl ⟨_, by omega, rfl⟩
    · exact .inl ⟨_, by omega, rfl⟩
    · exact ih hrest

theorem length_encode (bs : Bytes) : (encode bs).length = 4 * ((bs.length + 2) / 3) :=
  length_groups_padded bs

/-- Written texts are ASCII. -/
theorem lt_of_mem_encode {c : UInt8} {bs : Bytes} (h : c ∈ encode bs) : c < 0x80 := by
  have hsymbol : ∀ v < 64, symbol standard v < 0x80 := by decide
  rcases mem_groups h with ⟨v, hv, rfl⟩ | hp
  · exact hsymbol v hv
  · rw [List.mem_singleton] at hp
    subst hp
    decide

theorem visible_of_mem_encodeUrl {c : UInt8} {bs : Bytes} (h : c ∈ encodeUrl bs) :
    0x20 < c ∧ c < 0x7F := by
  have hsymbol : ∀ v < 64, 0x20 < symbol url v ∧ symbol url v < 0x7F := by decide
  rcases mem_groups h with ⟨v, hv, rfl⟩ | hp
  · exact hsymbol v hv
  · simp at hp

/-- What is written in the standard form is read back. -/
theorem decode?_encode (bs : Bytes) : decode? (encode bs) = some bs := by
  have hhead : (encode bs).head? ≠ some pad := by
    intro hpad
    cases bs using groups.induct with
    | case1 => cases hpad
    | case2 a =>
      exact standard_alphabet.ne_pad _ (by have := a.toNat_lt; omega) (Option.some.inj hpad)
    | case3 a b =>
      exact standard_alphabet.ne_pad _ (by have := a.toNat_lt; omega) (Option.some.inj hpad)
    | case4 a b c rest =>
      exact standard_alphabet.ne_pad _ (by have := a.toNat_lt; omega) (Option.some.inj hpad)
  rw [decode?, if_neg hhead]
  exact run_groups standard_alphabet bs #[]

/-- What is written in the form for addresses is read back. -/
theorem decodeUrl?_encodeUrl (bs : Bytes) : decodeUrl? (encodeUrl bs) = some bs := by
  have hrun : Reader.run url {}
      (encodeUrl bs ++ List.replicate ((4 - (encodeUrl bs).length % 4) % 4) pad) = some bs := by
    rw [encodeUrl, groups_append_pad]
    exact run_groups url_alphabet bs #[]
  rw [decodeUrl?, hrun]
  exact if_pos rfl

/-! ## The length of what is read -/

namespace Reader

variable {r : Reader} {m : Nat} {cs bs : Bytes}

theorem place_push (h : r.place < 4) (v : Nat) : (r.push v).place = (r.place + 1) % 4 := by
  have hplaces : r.place = 0 ∨ r.place = 1 ∨ r.place = 2 ∨ r.place = 3 := by omega
  rcases hplaces with hr | hr | hr | hr
  all_goals simp only [push, hr]

/-- Every character but the first of a group completes a byte. -/
theorem size_push (r : Reader) (v : Nat) :
    (r.push v).bytes.size = r.bytes.size + if r.place = 0 then 0 else 1 := by
  unfold push
  split <;> simp_all

/-- What `m` characters that are no padding leave behind: three bytes for four of them. -/
structure Holds (r : Reader) (m : Nat) : Prop where
  place : r.place = m % 4
  size : r.bytes.size = 3 * m / 4

theorem Holds.push (h : r.Holds m) (v : Nat) : (r.push v).Holds (m + 1) where
  place := by
    have hplace := h.place
    rw [place_push (by omega)]
    omega
  size := by
    rw [size_push, h.place, h.size]
    split
    · omega
    · have hplaces : m % 4 = 1 ∨ m % 4 = 2 ∨ m % 4 = 3 := by omega
      rcases hplaces with hm | hm | hm <;> omega

/-- Padding adds nothing, however much of it there is. -/
theorem Holds.skipPad (h : r.Holds m) : r.skipPad.Holds m := ⟨h.place, h.size⟩

theorem Holds.length_of_run (h : r.Holds m) (hrun : r.run last cs = some bs) :
    bs.length = 3 * (m + cs.countP (· ≠ pad)) / 4 := by
  induction cs generalizing r m with
  | nil =>
    rw [run] at hrun
    split at hrun
    · cases hrun
      exact h.size
    · cases hrun
  | cons c cs ih =>
    rw [run] at hrun
    split at hrun
    · rename_i hpad
      rw [List.countP_cons_of_neg (by simp [hpad])]
      split at hrun
      · split at hrun
        · rename_i hend
          cases hrun
          rw [List.isEmpty_iff.1 hend]
          exact h.size
        · cases hrun
      · exact ih h.skipPad hrun
    · rename_i hpad
      rw [List.countP_cons_of_pos (by simp [hpad])]
      split at hrun
      · cases hrun
      · split at hrun
        · cases hrun
        · rw [ih (h.push _) hrun]
          omega

end Reader

/-- **Four characters make three bytes.** Padding does not count, whether it is superfluous or not. -/
theorem length_of_decode? {cs bs : Bytes} (h : decode? cs = some bs) :
    bs.length = 3 * cs.countP (· ≠ pad) / 4 := by
  unfold decode? at h
  split at h
  · cases h
  · have hstart : Reader.Holds {} 0 := ⟨rfl, rfl⟩
    rw [hstart.length_of_run h, Nat.zero_add]

end Portrait.Base64
