import Portrait.Proofs.Gif.Codec

/-!
# What is decoded can be encoded

A parser takes every number from a field of fixed width and every palette from a color table, so
whatever it accepts fits the fields of a writer.

* `Control.Legal`, `CodedFrame.Legal`, `Scan.Legal` — numbers that fit, and full palettes.
* `Scan.Legal.extend`, `legal_of_readImage` — one block keeps what has been read legal.
* `legal_of_scan` — so do all blocks, one after the other.

Main statement: `Animation.encodable_of_decode`.
-/

set_option autoImplicit false

namespace Portrait.Gif

theorem ofLE_pair_lt (a b : UInt8) : Bytes.ofLE [a, b] < 65536 := by
  have ha := a.toNat_lt
  have hb := b.toNat_lt
  simp only [Bytes.ofLE]
  omega

/-- Control values that fit their block. -/
structure Control.Legal (c : Control) : Prop where
  delay : c.delay < 65536
  disposal : c.disposal < 8

/-- An image block that fits its fields, with a full palette. -/
structure CodedFrame.Legal (f : CodedFrame) : Prop where
  left : f.left < 65536
  top : f.top < 65536
  width : 0 < f.width ∧ f.width < 65536
  height : 0 < f.height ∧ f.height < 65536
  palette : ∃ k, ColorTable.Full f.palette k
  control : f.control.Legal

/-- What a legal prefix of a GIF leaves behind. -/
structure Scan.Legal (st : Scan) : Prop where
  loopCount : ∀ n, st.loopCount = some n → n < 65536
  control : st.control.Legal
  frames : ∀ f ∈ st.frames, f.Legal

theorem Control.legal_default : ({} : Control).Legal := ⟨by decide, by decide⟩

/-! ## Extensions -/

theorem Control.legal_of_block {block : Bytes} {c : Control} (h : Control.ofBlock? block = some c) :
    c.Legal := by
  unfold Control.ofBlock? at h
  split at h
  · cases h
    exact ⟨ofLE_pair_lt _ _, Nat.mod_lt _ (by decide)⟩
  · cases h

theorem lt_of_loopCountOfBlock {block : Bytes} {n : Nat} (h : loopCountOfBlock? block = some n) :
    n < 65536 := by
  unfold loopCountOfBlock? at h
  split at h
  · cases h
    exact ofLE_pair_lt _ _
  · cases h

/-- An extension keeps what has been read legal. -/
theorem Scan.Legal.extend {st st' : Scan} {label : UInt8} {blocks : List Bytes} (hs : st.Legal)
    (h : st.extend label blocks = .ok st') : st'.Legal := by
  unfold Scan.extend at h
  split at h
  · split at h
    · cases h
    split at h
    · cases h
    rename_i hcontrol
    cases h
    exact { hs with control := Control.legal_of_block hcontrol }
  split at h
  · split at h
    · split at h
      · split at h
        · cases h
          exact hs
        · rename_i hcount
          cases h
          refine { hs with loopCount := fun n hn => ?_ }
          cases hn
          exact lt_of_loopCountOfBlock hcount
      · cases h
        exact hs
    · cases h
      exact hs
  · cases h
    exact hs

/-! ## Images -/

/-- A palette that may be read: a full one, or none at all. -/
def Readable (palette : Bytes) : Prop := palette = [] ∨ ∃ k, ColorTable.Full palette k

theorem readable_of_readPalette {globalPalette palette bs rest : Bytes} {packed : UInt8}
    (hg : Readable globalPalette) (h : readPalette globalPalette packed bs = .ok (palette, rest)) :
    Readable palette := by
  unfold readPalette at h
  split at h
  · cases h
    exact hg
  split at h
  · cases h
  rename_i r htake
  cases h
  obtain ⟨-, hlen⟩ := Bytes.takeExact_eq_some.1 htake
  rw [ColorTable.byteSize, Nat.one_shiftLeft] at hlen
  exact .inr ⟨packed.toNat % 8, Nat.mod_lt _ (by decide), hlen⟩

/-- An image block that is read is legal. -/
theorem legal_of_readImage {globalPalette bs rest : Bytes} {control : Control} {f : CodedFrame}
    (hg : Readable globalPalette) (hc : control.Legal)
    (h : readImage globalPalette control bs = .ok (f, rest)) : f.Legal := by
  unfold readImage at h
  split at h
  · split at h
    · cases h
    rename_i palette tl hpalette
    have hreadable := readable_of_readPalette hg hpalette
    split at h
    · cases h
    rename_i hne
    split at h
    · cases h
    rename_i hsides
    split at h
    · cases h
    split at h
    · cases h
    cases h
    exact
      { left := ofLE_pair_lt _ _
        top := ofLE_pair_lt _ _
        width := ⟨by dsimp only; omega, ofLE_pair_lt _ _⟩
        height := ⟨by dsimp only; omega, ofLE_pair_lt _ _⟩
        palette := hreadable.resolve_left hne
        control := hc }
  · cases h

/-- All blocks up to the trailer keep what has been read legal. -/
theorem legal_of_scan {globalPalette bs : Bytes} {st st' : Scan} (hg : Readable globalPalette)
    (hs : st.Legal) (h : scan globalPalette st bs = .ok st') : st'.Legal := by
  fun_induction scan globalPalette st bs with
  | case1 => cases h; exact hs
  | case2 => cases h; exact hs
  | case3 => cases h
  | case4 => cases h
  | case5 => cases h
  | case6 st label rest blocks rest' hread next hextend hne ih => exact ih (hs.extend hextend) h
  | case7 => cases h
  | case8 st rest frame rest' himage hne hne' ih =>
    refine ih { loopCount := hs.loopCount, control := Control.legal_default, frames := ?_ } h
    intro f hf
    rcases List.mem_cons.1 hf with rfl | hf
    · exact legal_of_readImage hg hs.control himage
    · exact hs.frames f hf
  | case9 => cases h

/-! ## Containers -/

/-- A container whose numbers fit their fields. -/
structure Container.Legal (c : Container) : Prop where
  width : c.width < 65536
  height : c.height < 65536
  loopCount : ∀ n, c.loopCount = some n → n < 65536
  nonempty : c.frames ≠ []
  frames : ∀ f ∈ c.frames, f.Legal

/-- A container that is parsed is legal. -/
theorem legal_of_parse {data : Bytes} {c : Container} (h : Container.parse data = .ok c) :
    c.Legal := by
  unfold Container.parse at h
  split at h
  · cases h
  split at h
  · cases h
  split at h
  · split at h
    · cases h
    rename_i globalPalette rest hglobal
    split at h
    · cases h
    rename_i st hscan
    split at h
    · cases h
    rename_i hne
    cases h
    have hg : Readable globalPalette := readable_of_readPalette (.inl rfl) hglobal
    have hst : st.Legal :=
      legal_of_scan hg
        { loopCount := by simp, control := Control.legal_default, frames := by simp } hscan
    exact
      { width := ofLE_pair_lt _ _
        height := ofLE_pair_lt _ _
        loopCount := hst.loopCount
        nonempty := by simpa using hne
        frames := fun f hf => hst.frames f (List.mem_reverse.1 hf) }
  · cases h

/-! ## Decoded frames -/

/-- A legal image block decodes to an encodable frame. -/
theorem Frame.encodable_of_ofCoded {c : CodedFrame} {f : Frame} (hc : c.Legal)
    (h : ofCoded c = .ok f) : f.Encodable := by
  unfold ofCoded at h
  split at h
  · cases h
  rename_i image himage
  cases h
  unfold CodedFrame.decode at himage
  split at himage
  · cases himage
  rename_i hpixels
  split at himage
  · cases himage
  cases himage
  obtain ⟨k, hfull⟩ := hc.palette
  exact
    { width := ⟨hc.width.1, Nat.le_of_lt_succ hc.width.2⟩
      height := ⟨hc.height.1, Nat.le_of_lt_succ hc.height.2⟩
      pixels := Nat.not_lt.1 hpixels
      palette := ⟨_, hfull.whole⟩
      left := ⟨Int.natCast_nonneg _, Int.ofNat_lt.2 hc.left⟩
      top := ⟨Int.natCast_nonneg _, Int.ofNat_lt.2 hc.top⟩
      delay := ⟨Int.natCast_nonneg _, Int.ofNat_lt.2 hc.control.delay⟩
      disposal := ⟨Int.natCast_nonneg _, Int.ofNat_lt.2 hc.control.disposal⟩
      transparency := by
        intro t ht
        obtain ⟨b, -, rfl⟩ := Option.map_eq_some_iff.1 ht
        exact ⟨Int.natCast_nonneg _, Int.ofNat_lt.2 b.toNat_lt⟩ }

/-- Decoded frames are as many as the coded ones, and encodable. -/
theorem encodable_of_decodeFrames {coded : List CodedFrame} {frames : List Frame}
    (hc : ∀ c ∈ coded, c.Legal) (h : decodeFrames coded = .ok frames) :
    frames.length = coded.length ∧ ∀ f ∈ frames, f.Encodable := by
  induction coded generalizing frames with
  | nil =>
    cases h
    exact ⟨rfl, by simp⟩
  | cons c coded ih =>
    unfold decodeFrames at h
    split at h
    · cases h
    rename_i f hf
    split at h
    · cases h
    rename_i rest hrest
    cases h
    obtain ⟨hlen, heach⟩ := ih (fun d hd => hc d (List.mem_cons_of_mem _ hd)) hrest
    refine ⟨by rw [List.length_cons, List.length_cons, hlen], fun g hg => ?_⟩
    rcases List.mem_cons.1 hg with rfl | hg
    · exact Frame.encodable_of_ofCoded (hc c (by simp)) hf
    · exact heach g hg

/-- **What is decoded can be encoded.** -/
theorem Animation.encodable_of_decode {data : Bytes} {a : Animation} (h : decode data = .ok a) :
    a.Encodable := by
  unfold decode at h
  split at h
  · cases h
  rename_i c hparse
  split at h
  · cases h
  rename_i frames hframes
  cases h
  have hc := legal_of_parse hparse
  obtain ⟨hlen, heach⟩ := encodable_of_decodeFrames hc.frames hframes
  exact
    { frames := by
        rw [← List.length_pos_iff, hlen]
        exact List.length_pos_iff.2 hc.nonempty
      width := ⟨Int.natCast_nonneg _, Int.ofNat_lt.2 hc.width⟩
      height := ⟨Int.natCast_nonneg _, Int.ofNat_lt.2 hc.height⟩
      loopCount := by
        intro n hn
        obtain ⟨m, hm, rfl⟩ := Option.map_eq_some_iff.1 hn
        exact ⟨Int.natCast_nonneg _, Int.ofNat_lt.2 (hc.loopCount m hm)⟩
      each := heach }

end Portrait.Gif
