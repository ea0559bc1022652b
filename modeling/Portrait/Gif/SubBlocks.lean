import Portrait.Bytes

/-!
# Data sub-blocks

GIF stores data of unknown length as a chain of sub-blocks: a size byte, that many bytes, and so on
until a size byte of zero.

* `encode` — the chain of the given blocks with its terminator.
* `read?` — the blocks of the chain at the front of a byte string, and the rest.
* `ofBytes` — data cut into blocks of 255 bytes.

Main statements: what `read?` consumes is the encoding of what it returns (`eq_of_read?`), every
encoding of well-formed blocks is read back (`read?_encode`), and the rest is shorter
(`length_lt_of_read?`).
-/

namespace Portrait.Gif.SubBlocks

/-- A block that a size byte can announce and that is not mistaken for the terminator. -/
def WellFormed (block : Bytes) : Prop := 0 < block.length ∧ block.length ≤ 255

/-- The chain of sub-blocks, terminator included. -/
def encode : List Bytes → Bytes
  | [] => [0]
  | block :: rest => UInt8.ofNat block.length :: (block ++ encode rest)

/-- Reads sub-blocks onto `acc`, the last block read being its head. -/
def readOnto (acc : List Bytes) (bs : Bytes) : Option (List Bytes × Bytes) :=
  match bs with
  | [] => none
  | size :: rest =>
    if size = 0 then some (acc.reverse, rest)
    else if (rest.take size.toNat).length = size.toNat then
      readOnto (rest.take size.toNat :: acc) (rest.drop size.toNat)
    else none
termination_by bs.length
decreasing_by simp only [List.length_drop, List.length_cons]; omega

/-- The sub-blocks at the front of `bs` and what follows their terminator. -/
def read? (bs : Bytes) : Option (List Bytes × Bytes) := readOnto [] bs

theorem readOnto_spec (acc : List Bytes) (bs : Bytes) {blocks : List Bytes} {rest : Bytes}
    (h : readOnto acc bs = some (blocks, rest)) :
    ∃ new, blocks = acc.reverse ++ new ∧ bs = encode new ++ rest ∧
      ∀ b ∈ new, WellFormed b := by
  induction hn : bs.length using Nat.strongRecOn generalizing acc bs with
  | _ n ih =>
  subst hn
  unfold readOnto at h
  split at h
  · cases h
  rename_i size tl
  split at h
  · rename_i hz
    simp only [Option.some.injEq, Prod.mk.injEq] at h
    obtain ⟨rfl, rfl⟩ := h
    exact ⟨[], by simp, by simp [encode, hz], by simp⟩
  rename_i hz
  split at h
  · rename_i hl
    obtain ⟨new, hb, ht, hw⟩ := ih _ (by simp only [List.length_drop, List.length_cons]; omega)
      (tl.take size.toNat :: acc) (tl.drop size.toNat) h rfl
    have hpos : 0 < size.toNat := by
      rcases Nat.eq_zero_or_pos size.toNat with h0 | h0
      · exact absurd (UInt8.toNat_inj.1 h0) hz
      · exact h0
    refine ⟨tl.take size.toNat :: new, by simp [hb], ?_, ?_⟩
    · simp only [encode, hl, UInt8.ofNat_toNat, List.cons_append, List.append_assoc]
      rw [← ht, List.take_append_drop]
    · intro b hb
      rcases List.mem_cons.1 hb with rfl | hb
      · exact ⟨by omega, by have := size.toNat_lt; omega⟩
      · exact hw b hb
  · cases h

theorem eq_of_read? {bs rest : Bytes} {blocks : List Bytes} (h : read? bs = some (blocks, rest)) :
    bs = encode blocks ++ rest ∧ ∀ b ∈ blocks, WellFormed b := by
  obtain ⟨new, rfl, ht, hw⟩ := readOnto_spec [] bs h
  exact ⟨ht, hw⟩

theorem toNat_size {block : Bytes} (h : WellFormed block) :
    (UInt8.ofNat block.length).toNat = block.length := by
  rw [UInt8.toNat_ofNat']
  exact Nat.mod_eq_of_lt (Nat.lt_succ_of_le h.2)

theorem size_ne_zero {block : Bytes} (h : WellFormed block) : UInt8.ofNat block.length ≠ 0 := by
  intro hzero
  have hpos := h.1
  rw [← toNat_size h, hzero] at hpos
  exact Nat.lt_irrefl 0 hpos

theorem readOnto_encode (acc blocks : List Bytes) (rest : Bytes)
    (hw : ∀ b ∈ blocks, WellFormed b) :
    readOnto acc (encode blocks ++ rest) = some (acc.reverse ++ blocks, rest) := by
  induction blocks generalizing acc with
  | nil => simp [encode, readOnto]
  | cons b bs ih =>
    have hb := hw b (by simp)
    simp only [encode, List.cons_append, List.append_assoc]
    unfold readOnto
    rw [if_neg (size_ne_zero hb), toNat_size hb]
    simp only [List.take_left, List.drop_left, if_true]
    rw [ih _ fun c hc => hw c (List.mem_cons_of_mem _ hc)]
    simp

theorem read?_encode {blocks : List Bytes} {rest : Bytes} (hw : ∀ b ∈ blocks, WellFormed b) :
    read? (encode blocks ++ rest) = some (blocks, rest) := by
  simpa [read?] using readOnto_encode [] blocks rest hw

theorem length_encode_pos (blocks : List Bytes) : 0 < (encode blocks).length := by
  cases blocks <;> simp [encode]

theorem length_lt_of_read? {bs rest : Bytes} {blocks : List Bytes}
    (h : read? bs = some (blocks, rest)) : rest.length < bs.length := by
  obtain ⟨ht, _⟩ := eq_of_read? h
  have := length_encode_pos blocks
  rw [ht, List.length_append]
  omega

/-- Cuts data into blocks of 255 bytes, the last one shorter, onto `acc`. -/
def cutOnto (acc : List Bytes) (data : Bytes) : List Bytes :=
  match data with
  | [] => acc.reverse
  | b :: bs => cutOnto ((b :: bs).take 255 :: acc) ((b :: bs).drop 255)
termination_by data.length
decreasing_by simp only [List.length_drop, List.length_cons]; omega

/-- Data cut into blocks of 255 bytes, the last one shorter. -/
def ofBytes (data : Bytes) : List Bytes := cutOnto [] data

end Portrait.Gif.SubBlocks
