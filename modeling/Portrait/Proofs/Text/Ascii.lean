import Mathlib.Data.List.Basic
import Portrait.Bytes

/-!
# Texts in ASCII

A text of bytes below 128 has these bytes as its encoding, and such a byte stands for a character of
its own in every encoding.

Main statements: `Bytes.ofString_ofAscii` and `Bytes.mem_toList_of_mem_ofString`.
-/

set_option autoImplicit false

namespace Portrait.Bytes

theorem toList_loop (bs : ByteArray) (i : Nat) (done : List UInt8) :
    ByteArray.toList.loop bs i done = done.reverse ++ bs.data.toList.drop i := by
  fun_induction ByteArray.toList.loop bs i done with
  | case1 i done hi ih =>
    have hlt : i < bs.data.toList.length := by simpa using! hi
    have hget : bs.get! i = bs.data.toList[i] := by
      show bs.data[i]! = _
      rw [getElem!_pos bs.data i (by simpa using hlt), Array.getElem_toList]
    rw [ih, List.drop_eq_getElem_cons hlt, hget]
    simp
  | case2 i done hi =>
    have hle : bs.data.toList.length ≤ i := by simpa using! Nat.le_of_not_lt hi
    rw [List.drop_of_length_le hle, List.append_nil]

theorem toList_toByteArray (bs : Bytes) : bs.toByteArray.toList = bs := by
  rw [ByteArray.toList, toList_loop]
  simp [List.data_toByteArray]

/-- The encoding of a text is that of its characters. -/
theorem ofString_eq_flatMap (s : String) : ofString s = s.toList.flatMap String.utf8EncodeChar := by
  conv_lhs => rw [← String.ofList_toList (s := s)]
  rw [ofString, String.toUTF8_eq_toByteArray, String.toByteArray_ofList, List.utf8Encode,
    toList_toByteArray]

theorem ofString_append (s t : String) : ofString (s ++ t) = ofString s ++ ofString t := by
  simp only [ofString_eq_flatMap, String.toList_append, List.flatMap_append]

theorem utf8EncodeChar_ofNat {b : UInt8} (h : b < 0x80) :
    String.utf8EncodeChar (Char.ofNat b.toNat) = [b] := by
  have hall : ∀ n < 0x80, String.utf8EncodeChar (Char.ofNat n) = [UInt8.ofNat n] := by decide
  rw [hall b.toNat (UInt8.lt_iff_toNat_lt.1 h), UInt8.ofNat_toNat]

/-- The encoding of a text with one character for each byte is these bytes, if they are ASCII. -/
theorem ofString_ofAscii {bs : Bytes} (h : ∀ b ∈ bs, b < 0x80) :
    ofString (String.ofList (bs.map fun b => Char.ofNat b.toNat)) = bs := by
  have hflat : (bs.map fun b => Char.ofNat b.toNat).flatMap String.utf8EncodeChar = bs := by
    induction bs with
    | nil => rfl
    | cons b bs ih =>
      rw [List.map_cons, List.flatMap_cons, utf8EncodeChar_ofNat (h b (List.mem_cons_self ..)),
        ih fun a ha => h a (List.mem_cons_of_mem _ ha)]
      rfl
  rw [ofString_eq_flatMap, String.toList_ofList, hflat]

/-- A text in ASCII has as many bytes as characters. -/
theorem length_ofString_of_ascii {s : String} (h : ∀ c ∈ s.toList, c.toNat < 128) :
    (ofString s).length = s.length := by
  have hone : ∀ c ∈ s.toList, (String.utf8EncodeChar c).length = 1 := by
    intro c hc
    have hlow : c.val ≤ 127 := UInt32.le_iff_toNat_le.2 (Nat.le_of_lt_succ (h c hc))
    rw [String.length_utf8EncodeChar, Char.utf8Size_eq_one_iff.2 hlow]
  rw [ofString_eq_flatMap, List.length_flatMap, List.map_congr_left hone, ← String.length_toList]
  simp

/-- A byte in ASCII stands for a character of its own. -/
theorem toNat_of_mem_utf8EncodeChar {c : Char} {b : UInt8} (h : b ∈ String.utf8EncodeChar c)
    (hb : b < 0x80) : c.toNat = b.toNat := by
  have hlow : b.toNat < 0x80 := UInt8.lt_iff_toNat_lt.1 hb
  have hchar : c.toNat = c.val.toNat := rfl
  have hhigh : ∀ n : Nat, n % 256 ≥ 0x80 → b ≠ UInt8.ofNat n := by
    rintro n hn rfl
    rw [UInt8.toNat_ofNat'] at hlow
    omega
  unfold String.utf8EncodeChar at h
  dsimp only at h
  split at h
  · rw [List.mem_singleton.1 h, UInt8.toNat_ofNat', hchar]
    omega
  -- every byte of a longer encoding has its highest bit set
  split at h
  · simp only [List.mem_cons, List.not_mem_nil, or_false] at h
    rcases h with h | h
    all_goals exact absurd h (hhigh _ (by omega))
  split at h
  · simp only [List.mem_cons, List.not_mem_nil, or_false] at h
    rcases h with h | h | h
    all_goals exact absurd h (hhigh _ (by omega))
  · simp only [List.mem_cons, List.not_mem_nil, or_false] at h
    rcases h with h | h | h | h
    all_goals exact absurd h (hhigh _ (by omega))

/-- A byte in ASCII is in the encoding of a text only if its character is in the text. -/
theorem mem_toList_of_mem_ofString {s : String} {b : UInt8} (h : b ∈ ofString s) (hb : b < 0x80) :
    Char.ofNat b.toNat ∈ s.toList := by
  rw [ofString_eq_flatMap] at h
  obtain ⟨c, hc, hbc⟩ := List.mem_flatMap.1 h
  rwa [← toNat_of_mem_utf8EncodeChar hbc hb, Char.ofNat_toNat]

end Portrait.Bytes
