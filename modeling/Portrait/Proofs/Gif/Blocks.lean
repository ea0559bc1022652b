import Portrait.Gif.Parser
import Portrait.Gif.Writer
import Portrait.Proofs.Gif.ColorTable

/-!
# Written blocks are read back

Every block of an animation is the start of what the parser sees; reading it changes what has been
read so far in a known way, and goes on with what follows. The statements have one form: the bytes
of the block in front of `rest` scan like `rest` alone, from the changed state.

* `SubBlocks.flatten_ofBytes`, `SubBlocks.wellFormed_ofBytes` — cut data is put together again.
* `u16Field_eq` — two bytes hold every number below 65536.
* `scan_loopBlock`, `scan_controlBlock`, `scan_imageBlock` — the blocks of an animation.
* `parse_screenDescriptor` — the header, and how a parse ends.
-/

set_option autoImplicit false

namespace Portrait.Gif

/-! ## Sub-blocks -/

namespace SubBlocks

theorem cutOnto_spec (acc : List Bytes) (data : Bytes) :
    ∃ new, cutOnto acc data = acc.reverse ++ new ∧ new.flatten = data ∧
      ∀ block ∈ new, WellFormed block := by
  fun_induction cutOnto acc data with
  | case1 acc => exact ⟨[], by simp, rfl, by simp⟩
  | case2 acc b bs ih =>
    obtain ⟨new, hcut, hflat, hwell⟩ := ih
    refine ⟨(b :: bs).take 255 :: new, ?_, ?_, ?_⟩
    · rw [hcut]
      simp
    · rw [List.flatten_cons, hflat, List.take_append_drop]
    · intro block hmem
      rcases List.mem_cons.1 hmem with rfl | hmem
      · refine ⟨?_, List.length_take_le 255 (b :: bs)⟩
        simp
      · exact hwell block hmem

theorem flatten_ofBytes (data : Bytes) : (ofBytes data).flatten = data := by
  obtain ⟨new, hcut, hflat, -⟩ := cutOnto_spec [] data
  rw [ofBytes, hcut]
  exact hflat

theorem wellFormed_ofBytes (data : Bytes) : ∀ block ∈ ofBytes data, WellFormed block := by
  obtain ⟨new, hcut, -, hwell⟩ := cutOnto_spec [] data
  rw [ofBytes, hcut]
  exact hwell

end SubBlocks

/-! ## Fields -/

/-- Two bytes hold `n`. -/
def FitsField (n : Int) : Prop := 0 ≤ n ∧ n < 65536

/-- A number that fits is written in two bytes, and they spell it. -/
theorem u16Field_eq {n : Int} (h : FitsField n) :
    ∃ lo hi, u16Field n = some [lo, hi] ∧ Bytes.ofLE [lo, hi] = n.toNat := by
  have hlt : n.toNat < Nat.pow 256 2 := by
    have := h.2
    simp only [Nat.pow_eq, Nat.reducePow]
    omega
  exact ⟨_, _, if_pos h, Bytes.ofLE_toLE hlt⟩

/-! ## Extensions -/

variable {globalPalette : Bytes} {st : Scan} {rest : Bytes}

/-- An extension is read as its sub-blocks. -/
theorem scan_extension {label : UInt8} {blocks : List Bytes} {st' : Scan}
    (hw : ∀ block ∈ blocks, SubBlocks.WellFormed block) (h : st.extend label blocks = .ok st') :
    scan globalPalette st
        ([extensionIntroducer, label] ++ SubBlocks.encode blocks ++ rest) =
      scan globalPalette st' rest := by
  have hread : SubBlocks.read? (SubBlocks.encode blocks ++ rest) = some (blocks, rest) :=
    SubBlocks.read?_encode hw
  rw [List.append_assoc, List.cons_append, List.cons_append, List.nil_append]
  conv_lhs => unfold scan
  rw [if_neg (by decide), if_pos rfl]
  dsimp only
  split
  · rename_i hnone
    rw [hread] at hnone
    cases hnone
  rename_i blocks' rest' hsome
  rw [hread] at hsome
  cases hsome
  simp only [h]

/-- The loop block gives the loop count. -/
theorem scan_loopBlock {count : Int} (h : FitsField count) :
    ∃ block, loopBlock count = some block ∧ ∀ globalPalette st rest,
      scan globalPalette st (block ++ rest) =
        scan globalPalette { st with loopCount := some count.toNat } rest := by
  obtain ⟨lo, hi, hfield, hvalue⟩ := u16Field_eq h
  refine ⟨_, by simp only [loopBlock, hfield]; rfl, fun globalPalette st rest => ?_⟩
  refine scan_extension ?_ ?_
  · intro block hmem
    simp only [List.mem_cons, List.not_mem_nil, or_false] at hmem
    rcases hmem with rfl | rfl
    · exact ⟨by decide, by decide⟩
    · exact ⟨by simp, by simp⟩
  · rw [← hvalue]
    rfl

/-- What a reader sees in the packed byte of a graphic control block. -/
theorem controlPacked_bits {disposal : Int} (h : 0 ≤ disposal ∧ disposal < 8)
    (transparency : Option Int) :
    (controlPacked disposal transparency).toNat / 4 % 8 = disposal.toNat ∧
      ((controlPacked disposal transparency).toNat % 2 = 1 ↔ transparency.isSome) := by
  have hmod : disposal % 8 = disposal := Int.emod_eq_of_lt h.1 h.2
  rw [controlPacked, hmod, UInt8.toNat_ofNat']
  cases transparency with
  | none =>
    simp
    omega
  | some t =>
    simp
    omega

/-- The graphic control block gives the control values of the next image. -/
theorem scan_controlBlock {delay disposal : Int} {transparency : Option Int}
    (hdelay : FitsField delay) (hdisposal : 0 ≤ disposal ∧ disposal < 8)
    (ht : FitsByte transparency) :
    ∃ block, controlBlock delay disposal transparency = some block ∧ ∀ globalPalette st rest,
      scan globalPalette st (block ++ rest) =
        scan globalPalette
          { st with
            control :=
              { delay := delay.toNat
                disposal := disposal.toNat
                transparency := transparency.map fun i => UInt8.ofNat i.toNat } } rest := by
  obtain ⟨lo, hi, hfield, hvalue⟩ := u16Field_eq hdelay
  have hindex : u8Field (transparency.getD 0) =
      some [UInt8.ofNat (transparency.getD 0).toNat] := by
    refine if_pos ?_
    cases transparency with
    | none => exact ⟨by decide, by decide⟩
    | some i => exact ht i rfl
  refine ⟨_, by simp only [controlBlock, hfield, hindex]; rfl, fun globalPalette st rest => ?_⟩
  obtain ⟨hbits, hflag⟩ := controlPacked_bits hdisposal transparency
  refine scan_extension ?_ ?_
  · intro block hmem
    obtain rfl := List.mem_singleton.1 hmem
    exact ⟨by simp, by simp⟩
  · have htransparency : (if (controlPacked disposal transparency).toNat % 2 = 1 then
        some (UInt8.ofNat (transparency.getD 0).toNat) else none) =
          transparency.map fun i => UInt8.ofNat i.toNat := by
      cases transparency with
      | none => exact if_neg (by simpa using hflag)
      | some i => exact if_pos (by simpa using hflag)
    simp only [Scan.extend, if_true, List.cons_append, List.nil_append, Control.ofBlock?, hvalue,
      hbits, htransparency]

/-! ## Images -/

/-- The palette behind an image descriptor with a full local color table. -/
theorem readPalette_full {palette : Bytes} {k : Nat} (hfull : ColorTable.Full palette k)
    (interlaced : Bool) :
    readPalette globalPalette
        ((if interlaced then interlaceFlag else 0) ||| (colorTableFlag ||| UInt8.ofNat k))
        (palette ++ rest) = .ok (palette, rest) := by
  obtain ⟨hlocal, -, hsize⟩ := ColorTable.descriptor_bits interlaced hfull.lt
  have htake : Bytes.takeExact (3 * 2 ^ (k + 1)) (palette ++ rest) = some (palette, rest) :=
    Bytes.takeExact_eq_some.2 ⟨rfl, hfull.length⟩
  unfold readPalette
  rw [if_neg hlocal, hsize, htake]

/-- An image that can be read gives the next frame, and uses up the control values. -/
theorem scan_image {bs : Bytes} {f : CodedFrame}
    (h : readImage globalPalette st.control bs = .ok (f, rest)) :
    scan globalPalette st (imageIntroducer :: bs) =
      scan globalPalette { st with control := {}, frames := f :: st.frames } rest := by
  conv_lhs => unfold scan
  rw [if_neg (by decide), if_neg (by decide), if_pos rfl]
  split
  · rename_i herror
    rw [h] at herror
    cases herror
  · rename_i frame rest' hok
    rw [h] at hok
    cases hok
    rfl

/-- An image block with a full local color table gives the next frame. -/
theorem scan_imageBlock {f : CodedFrame} {left top : Int} {k : Nat}
    (hfull : ColorTable.Full f.palette k) (hleft : FitsField left) (htop : FitsField top)
    (hwidth : FitsField f.width) (hheight : FitsField f.height) (hw : 0 < f.width)
    (hh : 0 < f.height) (hchunks : ∀ block ∈ f.chunks, SubBlocks.WellFormed block) :
    ∃ block, imageBlock f left top true = some block ∧ ∀ globalPalette st rest,
      scan globalPalette st (block ++ rest) =
        scan globalPalette
          { st with
            control := {}
            frames := { f with left := left.toNat, top := top.toNat, control := st.control } ::
              st.frames } rest := by
  obtain ⟨l0, l1, hl, hlvalue⟩ := u16Field_eq hleft
  obtain ⟨t0, t1, ht, htvalue⟩ := u16Field_eq htop
  obtain ⟨w0, w1, hwf, hwvalue⟩ := u16Field_eq hwidth
  obtain ⟨h0, h1, hhf, hhvalue⟩ := u16Field_eq hheight
  rw [Int.toNat_natCast] at hwvalue hhvalue
  obtain ⟨-, hinterlaced, -⟩ := ColorTable.descriptor_bits f.interlaced hfull.lt
  have hpacked : imagePacked f true =
      (if f.interlaced then interlaceFlag else 0) ||| (colorTableFlag ||| UInt8.ofNat k) := by
    rw [imagePacked, if_pos rfl, hfull.sizeBits_eq]
  rw [← hpacked] at hinterlaced
  have himage (globalPalette : Bytes) (control : Control) (rest : Bytes) :
      readImage globalPalette control
          (l0 :: l1 :: t0 :: t1 :: w0 :: w1 :: h0 :: h1 :: imagePacked f true ::
            (f.palette ++ f.minCodeSize :: (SubBlocks.encode f.chunks ++ rest))) =
        .ok ({ f with left := left.toNat, top := top.toNat, control := control }, rest) := by
    have hpalette : readPalette globalPalette (imagePacked f true)
        (f.palette ++ f.minCodeSize :: (SubBlocks.encode f.chunks ++ rest)) =
          .ok (f.palette, f.minCodeSize :: (SubBlocks.encode f.chunks ++ rest)) := by
      rw [hpacked]
      exact readPalette_full hfull f.interlaced
    have hsides : ¬ (f.width = 0 ∨ f.height = 0) := by omega
    simp only [readImage, hpalette, if_neg hfull.ne_nil, hlvalue, htvalue, hwvalue, hhvalue,
      if_neg hsides, SubBlocks.read?_encode hchunks, hinterlaced]
  have hblock : imageBlock f left top true =
      some (imageIntroducer :: l0 :: l1 :: t0 :: t1 :: w0 :: w1 :: h0 :: h1 :: imagePacked f true ::
        (f.palette ++ f.minCodeSize :: SubBlocks.encode f.chunks)) := by
    simp only [imageBlock, hl, ht, hwf, hhf, if_true, hfull.pad_eq]
    rfl
  refine ⟨_, hblock, fun globalPalette st rest => ?_⟩
  simp only [List.cons_append, List.append_assoc]
  exact scan_image (himage globalPalette st.control rest)

/-! ## Containers -/

/-- Header, blocks and trailer are a container of what the blocks give. -/
theorem parse_screenDescriptor {width height : Int} (hwidth : FitsField width)
    (hheight : FitsField height) :
    ∃ screen, screenDescriptor width height = some screen ∧ ∀ blocks st,
      scan [] {} blocks = .ok st → st.frames ≠ [] →
        Container.parse (screen ++ blocks) =
          .ok {
            width := width.toNat
            height := height.toNat
            backgroundIndex := 0
            loopCount := st.loopCount
            frames := st.frames.reverse } := by
  obtain ⟨w0, w1, hw, hwvalue⟩ := u16Field_eq hwidth
  obtain ⟨h0, h1, hh, hhvalue⟩ := u16Field_eq hheight
  refine ⟨_, by simp only [screenDescriptor, hw, hh]; rfl, fun blocks st hscan hne => ?_⟩
  have htake : Bytes.takeExact 6
      (signature89 ++ [w0, w1] ++ [h0, h1] ++ [0, 0, 0] ++ blocks) =
        some (signature89, w0 :: w1 :: h0 :: h1 :: 0 :: 0 :: 0 :: blocks) :=
    Bytes.takeExact_eq_some.2 ⟨by simp, rfl⟩
  have hglobal : readGlobalPalette 0 blocks = .ok ([], blocks) := by
    rw [readGlobalPalette, readPalette, if_pos (by decide)]
  unfold Container.parse
  rw [htake]
  simp only [hglobal, hscan, hwvalue, hhvalue, if_neg hne]
  exact if_neg (fun h => h.2 rfl)

end Portrait.Gif
