import Portrait.Gif.Lzw.Decoder
import Portrait.Proofs.Gif.Lzw.Packing

/-!
# Reading undoes writing LZW codes

Encoder and decoder keep a table of strings each. The decoder adds a string only when it has seen
the byte that ends it, so its table is always one string behind; yet both widen their codes at the
same code, and a code that the decoder does not know yet is the one string it lacks.

* `follow` — the decoder on codes instead of bits.
* `stringOf` — the string of a code in a table.
* `Lockstep` — what holds between encoder and decoder after each pixel.
* `Lockstep.advances` — one more pixel keeps it: the pixel continues a known string, or makes a new
  one, or there is no number left for a new one.
* `Lockstep.finish` — so do all pixels, and the end code.

Main statement: `decode?_encode` — every non-empty sequence of pixels is read back.
-/

set_option autoImplicit false

namespace Portrait.Gif.Lzw

/-! ## Decoding codes -/

/-- What `run` does to codes. Each code must have the width that the decoder reads. -/
def follow (m need : Nat) (d : Decoder) : List (Nat × Nat) → Option (Array UInt8)
  | [] => none
  | (code, width) :: rest =>
    if width ≠ d.width m then none
    else if code = 1 <<< m then follow m need d.clear rest
    else if code = 1 <<< m + 1 then none
    else
      match d.step m code with
      | none => none
      | some d' =>
        if need ≤ d'.output.size then some (d'.output.extract 0 need) else follow m need d' rest

/-- Bits that spell codes are decoded as these codes. -/
theorem run_of_follow {m need : Nat} {cs : List (Nat × Nat)} {d : Decoder} {out : Array UInt8}
    (hf : follow m need d cs = some out) (hfits : Fits cs) {acc count : Nat} {bs : Bytes}
    (hacc : acc < 2 ^ count) (hv : acc + 2 ^ count * Bytes.ofLE bs = streamValue cs)
    (hw : streamWidth cs ≤ count + 8 * bs.length) : run m need d acc count bs = some out := by
  induction cs generalizing d acc count bs with
  | nil => cases hf
  | cons c rest ih =>
    obtain ⟨code, width⟩ := c
    obtain ⟨hcode, hrest⟩ := fits_cons.1 hfits
    simp only [streamValue, streamWidth] at hv hw
    obtain ⟨acc', count', bs', ht, hacc', hv'⟩ :=
      Bits.take_eq width bs hacc (by omega)
    have hc := Bits.take_consumes ht
    rw [hv, Nat.add_mul_mod_self_left, Nat.mod_eq_of_lt hcode] at ht
    rw [hv, Nat.add_mul_div_left _ _ (Nat.two_pow_pos width), Nat.div_eq_of_lt hcode,
      Nat.zero_add] at hv'
    have hnext {d' : Decoder} (h : follow m need d' rest = some out) :
        run m need d' acc' count' bs' = some out := ih h hrest hacc' hv' (by omega)
    simp only [follow] at hf
    split at hf
    · cases hf
    rename_i hwidth
    obtain rfl : width = d.width m := by simpa using hwidth
    unfold run
    split
    · rename_i hn
      rw [ht] at hn
      cases hn
    rename_i hs
    rw [ht] at hs
    cases hs
    split at hf
    · rename_i hclear
      rw [if_pos hclear]
      exact hnext hf
    rename_i hclear
    rw [if_neg hclear]
    split at hf
    · cases hf
    rename_i hend
    rw [if_neg hend]
    cases hstep : d.step m code with
    | none =>
      rw [hstep] at hf
      cases hf
    | some d' =>
      rw [hstep] at hf
      by_cases hdone : need ≤ d'.output.size
      · exact (if_pos hdone).trans ((if_pos hdone).symm.trans hf)
      · exact (if_neg hdone).trans (hnext ((if_neg hdone).symm.trans hf))

/-! ## Strings of codes -/

/-- The string of a code, of the table's own strings in the order of their numbers. -/
def stringOf (table : List (List UInt8)) (code : Nat) : Option (List UInt8) :=
  if code < 256 then some [UInt8.ofNat code]
  else if code < firstFree then none
  else table[code - firstFree]?

/-- The decoder's entry for a string. -/
def Entry.ofString (s : List UInt8) : Entry := ⟨s.headD 0, s.reverse⟩

variable {table : List (List UInt8)} {code : Nat} {s p : List UInt8} {b : UInt8}

theorem stringOf_byte (b : UInt8) : stringOf table b.toNat = some [b] := by
  have hb : b.toNat < 256 := b.toNat_lt
  simp [stringOf, hb]

theorem stringOf_append (more : List (List UInt8)) (h : stringOf table code = some s) :
    stringOf (table ++ more) code = some s := by
  unfold stringOf at h ⊢
  split
  · rename_i hc
    rwa [if_pos hc] at h
  rename_i hc
  rw [if_neg hc] at h
  split
  · rename_i hf
    rw [if_pos hf] at h
    cases h
  rename_i hf
  rw [if_neg hf] at h
  obtain ⟨hlt, -⟩ := List.getElem?_eq_some_iff.1 h
  rw [List.getElem?_append_left hlt]
  exact h

/-- The number of the last string. -/
theorem stringOf_last : stringOf (table ++ [s]) (firstFree + table.length) = some s := by
  have h1 : ¬ firstFree + table.length < 256 := by simp [firstFree]; omega
  have h2 : ¬ firstFree + table.length < firstFree := by omega
  rw [stringOf, if_neg h1, if_neg h2, Nat.add_sub_cancel_left, List.getElem?_append_right (by simp)]
  simp

theorem lt_of_stringOf (h : stringOf table code = some s) : code < firstFree + table.length := by
  unfold stringOf at h
  split at h
  · simp only [firstFree]
    omega
  split at h
  · cases h
  obtain ⟨hlt, -⟩ := List.getElem?_eq_some_iff.1 h
  omega

/-- Neither the clear code nor the end code stands for a string. -/
theorem ne_of_stringOf (h : stringOf table code = some s) : code ≠ clearCode ∧ code ≠ endCode := by
  unfold stringOf at h
  split at h
  · simp only [clearCode, endCode]
    omega
  split at h
  · cases h
  simp only [firstFree, clearCode, endCode] at *
  omega

theorem ne_nil_of_stringOf (hne : ∀ t ∈ table, t ≠ []) (h : stringOf table code = some s) :
    s ≠ [] := by
  unfold stringOf at h
  split at h
  · cases h
    simp
  split at h
  · cases h
  exact hne s (List.mem_of_getElem? h)

namespace Entry

theorem single_eq (b : UInt8) : single b = ofString [b] := rfl

theorem extend_ofString (hs : s ≠ []) : (ofString s).extend b = ofString (s ++ [b]) := by
  cases s with
  | nil => exact absurd rfl hs
  | cons a t => simp [ofString, extend]

theorem output_emit (d : Decoder) (s : List UInt8) :
    (d.emit (ofString s)).output.toList = d.output.toList ++ s := by
  simp only [Decoder.emit, ofString, List.foldr_reverse]
  induction s generalizing d with
  | nil => simp
  | cons a t ih =>
    have := ih { d with output := d.output.push a }
    simp only [List.foldl_cons]
    rw [this]
    simp

end Entry

namespace Decoder

variable {d : Decoder} {m : Nat}

theorem add_output (e : Entry) : (d.add m e).output = d.output := by
  unfold add
  split <;> rfl

theorem add_table (hroom : d.next m < tableLimit) (e : Entry) :
    (d.add m e).table = d.table.push e := by
  rw [add, if_pos hroom]

theorem add_width (hroom : d.next m < tableLimit) (e : Entry) :
    (d.add m e).width m =
      if d.next m + 1 = 2 ^ d.width m ∧ d.width m < maxWidth then d.width m + 1
      else d.width m := by
  by_cases hgrow : d.next m + 1 = 2 ^ d.width m ∧ d.width m < maxWidth
  · rw [add, if_pos hroom, Nat.one_shiftLeft, if_pos hgrow, if_pos hgrow]
    simp only [width]
    omega
  · rw [add, if_pos hroom, Nat.one_shiftLeft, if_neg hgrow, if_neg hgrow]
    rfl

end Decoder

/-! ## Encoder and decoder in lockstep -/

/-- How far the decoder is behind an encoder with this table, whose current string is `s`: the table
has just been emptied, or the decoder lacks its last string, which is the one read before with the
first byte of the current one. -/
inductive Behind (table : List (List UInt8)) (s : List UInt8) (d : Decoder) : Prop where
  | cleared (empty : table = []) (own : d.table = #[]) (previous : d.previous = none)
  | behind (known : List (List UInt8)) (p : List UInt8) (ne : p ≠ [])
      (last : table = known ++ [p ++ [s.headD 0]]) (own : d.table.toList = known.map .ofString)
      (previous : d.previous = some (.ofString p))

/-- Between two pixels: what the encoder has emitted, the decoder has read, and `s` is still to be
emitted. -/
structure Lockstep (table : List (List UInt8)) (s : List UInt8) (e : Encoder) (d : Decoder) :
    Prop where
  current : ∃ code, e.current = some code ∧ stringOf table code = some s
  next : e.next = firstFree + table.length
  room : e.next ≤ codeLimit
  width : e.width = d.width pixelBits
  wide : e.next ≤ 2 ^ e.width
  narrow : e.width ≤ maxWidth
  strings : ∀ c b k, e.strings[(c, b)]? = some k →
    ∃ p, stringOf table c = some p ∧ stringOf table k = some (p ++ [b])
  nonempty : ∀ t ∈ table, t ≠ []
  behind : Behind table s d

variable {e : Encoder} {d : Decoder}

namespace Lockstep

theorem nine_le_width (h : Lockstep table s e d) : 9 ≤ e.width := by
  rw [h.width, Decoder.width, pixelBits]
  omega

theorem ne_nil (h : Lockstep table s e d) : s ≠ [] := by
  obtain ⟨code, -, hs⟩ := h.current
  exact ne_nil_of_stringOf h.nonempty hs

/-- The state after a clear code, with the first byte after it. -/
theorem start (b : UInt8) (emitted : List (Nat × Nat)) (output : Array UInt8) :
    Lockstep [] [b] { current := some b.toNat, emitted := emitted } { output := output } where
  current := ⟨b.toNat, rfl, stringOf_byte b⟩
  next := rfl
  room := (by decide : firstFree ≤ codeLimit)
  width := rfl
  wide := (by decide : firstFree ≤ 2 ^ (pixelBits + 1))
  narrow := (by decide : pixelBits + 1 ≤ maxWidth)
  strings := by
    intro c a k hk
    simp at hk
  nonempty := by simp
  behind := .cleared rfl rfl rfl

/-- Codes up to the end code fit any width. -/
theorem lt_of_le_endCode (h : Lockstep table s e d) {k : Nat} (hk : k ≤ endCode) :
    k < 2 ^ e.width := by
  have h9 : 2 ^ 9 ≤ 2 ^ e.width := Nat.pow_le_pow_right (by decide) h.nine_le_width
  simp only [endCode] at hk
  omega

theorem code_lt (h : Lockstep table s e d) (hs : stringOf table code = some s) :
    code < 2 ^ e.width := by
  have hlt := lt_of_stringOf hs
  have hn := h.next
  have hw := h.wide
  omega

/-- The decoder finds or makes up the entry of the current string, and adds the string it lacked. -/
theorem step_eq (h : Lockstep table s e d) (hs : stringOf table code = some s)
    {known : List (List UInt8)} (ne : p ≠ []) (last : table = known ++ [p ++ [s.headD 0]])
    (own : d.table.toList = known.map Entry.ofString)
    (previous : d.previous = some (.ofString p)) :
    d.step pixelBits code =
      some ((d.add pixelBits (.ofString (p ++ [s.headD 0]))).emit (.ofString s)) := by
  have hsize : d.table.size = known.length := by
    rw [← Array.length_toList, own, List.length_map]
  have hlen : table.length = known.length + 1 := by rw [last]; simp
  have hextend (b : UInt8) : (Entry.ofString p).extend b = .ofString (p ++ [b]) :=
    Entry.extend_ofString ne
  have hlimit : firstFree + known.length < tableLimit := by
    have hr := h.room
    have hn := h.next
    simp only [codeLimit, tableLimit, maxWidth, firstFree] at *
    omega
  have hfirst : (Entry.ofString s).first = s.headD 0 := rfl
  simp only [Decoder.step, previous]
  by_cases hbyte : code < 256
  · have hentry : d.entry? pixelBits code = some (.ofString s) := by
      simp only [stringOf, if_pos hbyte, Option.some.injEq] at hs
      rw [Decoder.entry?, if_pos (by exact hbyte), Entry.single_eq, hs]
    simp only [hentry, hfirst, hextend]
  · have hfree : ¬ code < firstFree := by
      intro hlt
      simp only [stringOf, if_neg hbyte, if_pos hlt] at hs
      cases hs
    simp only [stringOf, if_neg hbyte, if_neg hfree] at hs
    have hentry : d.entry? pixelBits code = (known[code - firstFree]?).map .ofString := by
      rw [Decoder.entry?, if_neg (by exact hbyte), if_neg (by exact hfree), ← List.getElem?_map,
        ← own, Array.getElem?_toList]
      rfl
    rw [last, List.getElem?_append] at hs
    split at hs
    · rename_i hin
      simp only [hentry, hs, Option.map_some, hfirst, hextend]
    · -- The code of the string that the decoder lacks.
      rename_i hout
      have hnone : known[code - firstFree]? = none := List.getElem?_eq_none (by omega)
      rw [List.getElem?_singleton] at hs
      split at hs
      · rename_i hzero
        simp only [Option.some.injEq] at hs
        have hcode : code = firstFree + known.length := by omega
        have hnext : code = d.next pixelBits := by rw [Decoder.next, hsize, hcode]; rfl
        have hhead : (Entry.ofString p).first = s.headD 0 := by
          cases p with
          | nil => exact absurd rfl ne
          | cons a t => rw [← hs]; rfl
        simp only [hentry, hnone, Option.map_none]
        rw [if_pos ⟨hnext, hcode ▸ hlimit⟩, hhead, hextend, hs]
      · cases hs

/-- What the decoder is after it has read the code of the current string. -/
theorem exists_step (h : Lockstep table s e d) (hs : stringOf table code = some s) :
    ∃ d', d.step pixelBits code = some d' ∧ d'.output.toList = d.output.toList ++ s ∧
      d'.previous = some (.ofString s) ∧ d'.table.toList = table.map .ofString ∧
      d'.width pixelBits =
        if e.next = 2 ^ e.width ∧ e.width < maxWidth then e.width + 1 else e.width := by
  cases h.behind with
  | cleared empty own previous =>
    subst empty
    have hlt : code < 256 := by
      by_contra hge
      simp only [stringOf, if_neg hge] at hs
      split at hs <;> simp at hs
    obtain rfl : s = [UInt8.ofNat code] := by
      simp only [stringOf, if_pos hlt, Option.some.injEq] at hs
      exact hs.symm
    have hne : ¬ (e.next = 2 ^ e.width ∧ e.width < maxWidth) := by
      rintro ⟨hn, -⟩
      have h9 : 2 ^ 9 ≤ 2 ^ e.width := Nat.pow_le_pow_right (by decide) h.nine_le_width
      rw [← hn, h.next] at h9
      exact absurd h9 (by decide)
    refine ⟨d.emit (.single (UInt8.ofNat code)), ?_, ?_, ?_, ?_, ?_⟩
    · simp only [Decoder.step, previous]
      exact if_pos hlt
    · rw [Entry.single_eq, Entry.output_emit]
    · rfl
    · simp [Decoder.emit, own]
    · rw [if_neg hne, h.width]
      rfl
  | behind known p ne last own previous =>
    have hsize : d.table.size = known.length := by
      rw [← Array.length_toList, own, List.length_map]
    have hnext : d.next pixelBits + 1 = e.next := by
      rw [h.next, last, Decoder.next, hsize, List.length_append]
      rfl
    have hroom : d.next pixelBits < tableLimit := by
      have hr := h.room
      simp only [codeLimit, tableLimit, maxWidth] at *
      omega
    refine ⟨_, h.step_eq hs ne last own previous, ?_, ?_, ?_, ?_⟩
    · rw [Entry.output_emit, Decoder.add_output]
    · rfl
    · have htable := Decoder.add_table hroom (.ofString (p ++ [s.headD 0]))
      simp only [Decoder.emit, htable, Array.toList_push, own, last, List.map_append,
        List.map_cons, List.map_nil]
    · have hwidth := Decoder.add_width hroom (.ofString (p ++ [s.headD 0]))
      rw [← hnext, h.width]
      exact hwidth

/-- Reading the code of the current string, when more pixels are to come. -/
theorem exists_follow (h : Lockstep table s e d) (hs : stringOf table code = some s) {need : Nat}
    (hneed : d.output.size + s.length < need) :
    ∃ d', (∀ tail, follow pixelBits need d ((code, e.width) :: tail) =
        follow pixelBits need d' tail) ∧ d'.output.toList = d.output.toList ++ s ∧
      d'.previous = some (.ofString s) ∧ d'.table.toList = table.map .ofString ∧
      d'.width pixelBits =
        if e.next = 2 ^ e.width ∧ e.width < maxWidth then e.width + 1 else e.width := by
  obtain ⟨d', hstep, hout, hrest⟩ := h.exists_step hs
  obtain ⟨hclear, hend⟩ := ne_of_stringOf hs
  have hmore : ¬ need ≤ d'.output.size := by
    rw [← Array.length_toList, hout, List.length_append, Array.length_toList]
    omega
  refine ⟨d', fun tail => ?_, hout, hrest⟩
  rw [follow, if_neg (not_not.2 h.width), if_neg (by exact hclear), if_neg (by exact hend)]
  simp only [hstep]
  exact if_neg hmore

/-- Reading the code of the current string, when it ends the pixels. -/
theorem follow_last (h : Lockstep table s e d) (hs : stringOf table code = some s)
    (tail : List (Nat × Nat)) :
    ∃ out, follow pixelBits (d.output.size + s.length) d ((code, e.width) :: tail) = some out ∧
      out.toList = d.output.toList ++ s := by
  obtain ⟨d', hstep, hout, -⟩ := h.exists_step hs
  obtain ⟨hclear, hend⟩ := ne_of_stringOf hs
  have hsize : d'.output.size = d.output.size + s.length := by
    rw [← Array.length_toList, hout, List.length_append, Array.length_toList]
  refine ⟨d'.output, ?_, hout⟩
  rw [follow, if_neg (not_not.2 h.width), if_neg (by exact hclear), if_neg (by exact hend)]
  simp only [hstep]
  rw [if_pos (Nat.le_of_eq hsize.symm), ← hsize, Array.extract_size]

end Lockstep

/-! ## One pixel -/

/-- What a pixel leads to: codes that the decoder reads up to a state in lockstep with the new
encoder, in which one more pixel is known. -/
def Advances (need : Nat) (s : List UInt8) (e : Encoder) (d : Decoder) (b : UInt8) : Prop :=
  ∃ sent table' s' d', (e.push b).emitted = sent.reverse ++ e.emitted ∧ Fits sent ∧
    (∀ tail, follow pixelBits need d (sent ++ tail) = follow pixelBits need d' tail) ∧
    Lockstep table' s' (e.push b) d' ∧ d'.output.toList ++ s' = d.output.toList ++ s ++ [b]

/-- A byte that continues a string of the table is only remembered. -/
theorem advances_hit {need k : Nat} (h : Lockstep table s e d) (hc : e.current = some code)
    (hs : stringOf table code = some s) (hk : e.strings[(code, b)]? = some k) :
    Advances need s e d b := by
  obtain ⟨p, hp, hlonger⟩ := h.strings code b k hk
  obtain rfl : p = s := Option.some.inj (hp.symm.trans hs)
  have hpush : e.push b = { e with current := some k } := by
    unfold Encoder.push
    rw [hc]
    simp only [hk]
  have hhead : (p ++ [b]).headD 0 = p.headD 0 := by
    obtain ⟨a, t, rfl⟩ := List.exists_cons_of_ne_nil h.ne_nil
    rfl
  have hbehind : Behind table (p ++ [b]) d := by
    cases h.behind with
    | cleared empty own previous => exact .cleared empty own previous
    | behind known q ne last own previous =>
      exact .behind known q ne (by rw [hhead]; exact last) own previous
  refine ⟨[], table, p ++ [b], d, ?_, fits_nil, fun tail => rfl, ?_, by simp⟩
  · rw [hpush]
    rfl
  · rw [hpush]
    exact { h with current := ⟨k, rfl, hlonger⟩, behind := hbehind }

namespace Lockstep

/-- As long as there are free numbers, codes widen only below their full width. -/
theorem width_lt (h : e.next < codeLimit) (hn : e.next = 2 ^ e.width) : e.width < maxWidth := by
  by_contra hge
  have := Nat.pow_le_pow_right (n := 2) (by decide) (Nat.le_of_not_lt hge)
  simp only [maxWidth, codeLimit] at *
  omega

/-- A new string is found under its number, and all others are still. -/
theorem strings_insert (h : Lockstep table s e d) (hs : stringOf table code = some s) (c : Nat)
    (a : UInt8) (k : Nat) (hk : (e.strings.insert (code, b) e.next)[(c, a)]? = some k) :
    ∃ p, stringOf (table ++ [s ++ [b]]) c = some p ∧
      stringOf (table ++ [s ++ [b]]) k = some (p ++ [a]) := by
  rw [Std.HashMap.getElem?_insert] at hk
  split at hk
  · rename_i hkey
    obtain ⟨rfl, rfl⟩ : code = c ∧ b = a := by simpa using hkey
    obtain rfl : e.next = k := Option.some.inj hk
    refine ⟨s, stringOf_append _ hs, ?_⟩
    rw [h.next]
    exact stringOf_last
  · obtain ⟨p, hp, hlonger⟩ := h.strings c a k hk
    exact ⟨p, stringOf_append _ hp, stringOf_append _ hlonger⟩

/-- An encoder that has numbered a new string is in lockstep with a decoder that has read the code
before it. -/
theorem learn (h : Lockstep table s e d) (hs : stringOf table code = some s)
    (hroom : e.next < codeLimit) {d' : Decoder} (hprevious : d'.previous = some (.ofString s))
    (htable : d'.table.toList = table.map .ofString)
    (hwidth : d'.width pixelBits =
      if e.next = 2 ^ e.width ∧ e.width < maxWidth then e.width + 1 else e.width)
    (emitted : List (Nat × Nat)) :
    Lockstep (table ++ [s ++ [b]]) [b]
      { strings := e.strings.insert (code, b) e.next
        next := e.next + 1
        width := if e.next = 2 ^ e.width then e.width + 1 else e.width
        current := some b.toNat
        emitted := emitted } d' where
  current := ⟨b.toNat, rfl, stringOf_byte b⟩
  next := by
    have hn := h.next
    simp only [List.length_append, List.length_singleton]
    omega
  room := hroom
  width := by
    rw [hwidth]
    by_cases hn : e.next = 2 ^ e.width
    · rw [if_pos hn, if_pos ⟨hn, width_lt hroom hn⟩]
    · rw [if_neg hn, if_neg (fun hboth => hn hboth.1)]
  wide := by
    have hw := h.wide
    dsimp only
    split
    · have := Nat.two_pow_pos e.width
      rw [Nat.pow_succ]
      omega
    · omega
  narrow := by
    have hn := h.narrow
    dsimp only
    split
    · rename_i hgrow
      exact width_lt hroom hgrow
    · exact hn
  strings := h.strings_insert hs
  nonempty := by
    intro t ht
    rcases List.mem_append.1 ht with ht | ht
    · exact h.nonempty t ht
    · obtain rfl := List.mem_singleton.1 ht
      simp
  behind := .behind table s h.ne_nil rfl htable hprevious

end Lockstep

/-- A byte that continues no string of the table emits the current string, and numbers the new
one. -/
theorem advances_learn {need : Nat} (h : Lockstep table s e d) (hc : e.current = some code)
    (hs : stringOf table code = some s) (hnone : e.strings[(code, b)]? = none)
    (hroom : e.next < codeLimit) (hneed : d.output.size + s.length < need) :
    Advances need s e d b := by
  obtain ⟨d', hfollow, hout, hprevious, htable, hwidth⟩ := h.exists_follow hs hneed
  have hpush : e.push b =
      { strings := e.strings.insert (code, b) e.next
        next := e.next + 1
        width := if e.next = 2 ^ e.width then e.width + 1 else e.width
        current := some b.toNat
        emitted := (code, e.width) :: e.emitted } := by
    unfold Encoder.push
    rw [hc]
    simp only [hnone, Encoder.learn, Encoder.emit, if_pos hroom, Nat.one_shiftLeft]
  refine ⟨[(code, e.width)], table ++ [s ++ [b]], [b], d', ?_, ?_, hfollow, ?_, ?_⟩
  · rw [hpush]
    rfl
  · exact fits_cons.2 ⟨h.code_lt hs, fits_nil⟩
  · rw [hpush]
    exact h.learn hs hroom hprevious htable hwidth _
  · rw [hout]

/-- When all numbers are taken, the current string and the clear code are emitted. -/
theorem advances_reset {need : Nat} (h : Lockstep table s e d) (hc : e.current = some code)
    (hs : stringOf table code = some s) (hnone : e.strings[(code, b)]? = none)
    (hfull : ¬ e.next < codeLimit) (hneed : d.output.size + s.length < need) :
    Advances need s e d b := by
  obtain ⟨d', hfollow, hout, -, -, hwidth⟩ := h.exists_follow hs hneed
  have hpush : e.push b =
      { current := some b.toNat
        emitted := (clearCode, e.width) :: (code, e.width) :: e.emitted } := by
    have hlearn : (e.emit code).learn code b =
        { current := e.current
          emitted := (clearCode, e.width) :: (code, e.width) :: e.emitted } := if_neg hfull
    unfold Encoder.push
    rw [hc]
    simp only [hnone, hlearn]
  -- All numbers are taken, so codes have their full width already.
  have hwide : maxWidth ≤ e.width := by
    by_contra hlt
    have hw := h.wide
    have := Nat.pow_lt_pow_right (a := 2) (by decide) (Nat.lt_of_not_le hlt)
    simp only [maxWidth, codeLimit] at *
    omega
  have hsame : e.width = d'.width pixelBits := by
    rw [hwidth, if_neg (fun hboth => absurd hboth.2 (Nat.not_lt.2 hwide))]
  refine ⟨[(code, e.width), (clearCode, e.width)], [], [b], d'.clear, ?_, ?_, ?_, ?_, ?_⟩
  · rw [hpush]
    rfl
  · have hclear : clearCode < 2 ^ e.width := h.lt_of_le_endCode (by decide)
    exact fits_cons.2 ⟨h.code_lt hs, fits_cons.2 ⟨hclear, fits_nil⟩⟩
  · intro tail
    have hclear : follow pixelBits need d' ((clearCode, e.width) :: tail) =
        follow pixelBits need d'.clear tail := by
      rw [follow, if_neg (not_not.2 hsame), if_pos (by rfl)]
    exact (hfollow _).trans hclear
  · rw [hpush]
    exact Lockstep.start b _ _
  · rw [← hout]
    rfl

/-- Every pixel is read in lockstep. -/
theorem Lockstep.advances (h : Lockstep table s e d) (need : Nat) (b : UInt8)
    (hneed : d.output.size + s.length < need) : Advances need s e d b := by
  obtain ⟨code, hc, hs⟩ := h.current
  cases hk : e.strings[(code, b)]? with
  | some k => exact advances_hit h hc hs hk
  | none =>
    by_cases hroom : e.next < codeLimit
    · exact advances_learn h hc hs hk hroom hneed
    · exact advances_reset h hc hs hk hroom hneed

/-! ## All pixels -/

/-- From lockstep on, what the encoder still emits for the pixels to come is read as these
pixels. -/
theorem Lockstep.finish (h : Lockstep table s e d) (pixels : List UInt8) :
    ∃ tail out, (pixels.foldl Encoder.push e).finish = e.emitted.reverse ++ tail ∧ Fits tail ∧
      follow pixelBits (d.output.size + s.length + pixels.length) d tail = some out ∧
      out.toList = d.output.toList ++ s ++ pixels := by
  induction pixels generalizing table s e d with
  | nil =>
    obtain ⟨code, hc, hs⟩ := h.current
    obtain ⟨out, hfollow, hout⟩ := h.follow_last hs
      [(endCode, if e.next = 1 <<< e.width ∧ e.width < 12 then e.width + 1 else e.width)]
    refine ⟨_, out, ?_, ?_, hfollow, ?_⟩
    · simp [Encoder.finish, hc, Encoder.emit]
    · refine fits_cons.2 ⟨h.code_lt hs, fits_cons.2 ⟨?_, fits_nil⟩⟩
      refine Nat.lt_of_lt_of_le (h.lt_of_le_endCode Nat.le.refl) ?_
      refine Nat.pow_le_pow_right (by decide) ?_
      split <;> omega
    · simpa using hout
  | cons b rest ih =>
    obtain ⟨sent, table', s', d', hemitted, hfits, hfollow, hlock, hknown⟩ :=
      h.advances (d.output.size + s.length + (b :: rest).length) b (by simp)
    obtain ⟨tail, out, hfinish, hfitsTail, hread, hout⟩ := ih hlock
    have hsize : d'.output.size + s'.length = d.output.size + s.length + 1 := by
      have := congrArg List.length hknown
      simpa [Nat.add_assoc] using this
    refine ⟨sent ++ tail, out, ?_, ?_, ?_, ?_⟩
    · rw [List.foldl_cons, hfinish, hemitted]
      simp
    · exact fits_append.2 ⟨hfits, hfitsTail⟩
    · rw [hfollow]
      rw [hsize] at hread
      rw [List.length_cons, ← hread]
      congr 1
      omega
    · rw [hout, hknown]
      simp

/-- **Reading undoes writing.** -/
theorem decode?_encode (pixels : Array UInt8) (hne : 0 < pixels.size) :
    decode? pixelBits pixels.size (encode pixels) = some pixels := by
  obtain ⟨px⟩ := pixels
  obtain ⟨b, rest, rfl⟩ := List.exists_cons_of_length_pos hne
  obtain ⟨tail, out, hfinish, hfits, hread, hout⟩ :=
    (Lockstep.start b [(clearCode, pixelBits + 1)] #[]).finish rest
  have hcodes : codes ⟨b :: rest⟩ = (clearCode, pixelBits + 1) :: tail := by
    rw [codes, List.foldl_toArray]
    exact hfinish
  have hfitsAll : Fits (codes ⟨b :: rest⟩) := by
    rw [hcodes]
    exact fits_cons.2 ⟨by decide, hfits⟩
  have hfollow : follow pixelBits (b :: rest).length {} (codes ⟨b :: rest⟩) = some out := by
    rw [hcodes, follow, if_neg (by decide), if_pos (by decide), ← hread]
    congr 1
    simp
    omega
  obtain ⟨hvalue, hlen⟩ := @pack_eq 0 0 _ #[] hfitsAll (by decide) (by decide)
  have hrun : run pixelBits (b :: rest).length {} 0 0 (encode ⟨b :: rest⟩) = some out := by
    refine run_of_follow hfollow hfitsAll (by decide) ?_ ?_
    · simpa [encode, Bytes.ofLE] using hvalue
    · simpa [encode] using hlen
  have hall : out = ⟨b :: rest⟩ := by
    apply Array.toList_inj.1
    rw [hout]
    rfl
  rw [hall] at hrun
  rw [decode?, if_pos (by decide)]
  exact hrun

end Portrait.Gif.Lzw
