import Portrait.Proofs.Gif.Blocks
import Portrait.Proofs.Gif.Lzw.RoundTrip
import Portrait.Proofs.Raster.Interlace

/-!
# Decoding undoes encoding

Every animation whose numbers fit their fields is written, and reading what was written gives the
animation back, with the palettes as they were written.

* `Frame.Encodable`, `Animation.Encodable` — the numbers fit, and there is something to write.
* `Animation.padded` — the animation with its palettes as they are written.
* `Frame.exists_encode` — the blocks of a frame scan as a frame that decodes to it.
* `exists_encodeFrames` — so do the blocks of all frames, in order.

Main statement: `Animation.decode_encode`.
-/

set_option autoImplicit false

namespace Portrait.Gif

/-- A frame whose numbers fit their fields. -/
structure Frame.Encodable (f : Frame) : Prop where
  width : 0 < f.image.width ∧ f.image.width ≤ 65535
  height : 0 < f.image.height ∧ f.image.height ≤ 65535
  pixels : f.image.width * f.image.height ≤ pixelLimit
  palette : ∃ n, ColorTable.Whole f.palette n
  left : FitsField f.left
  top : FitsField f.top
  delay : FitsField f.delay
  disposal : 0 ≤ f.disposal ∧ f.disposal < 8
  transparency : FitsByte f.transparency

/-- An animation with at least one frame whose numbers fit their fields. -/
structure Animation.Encodable (a : Animation) : Prop where
  frames : a.frames ≠ []
  width : FitsField a.width
  height : FitsField a.height
  loopCount : ∀ n, a.loopCount = some n → FitsField n
  each : ∀ f ∈ a.frames, f.Encodable

/-- The animation with its palettes as they are written. -/
def Animation.padded (a : Animation) : Animation :=
  { a with frames := a.frames.map Frame.padded, backgroundIndex := 0 }

/-! ## One frame -/

/-- A transparent index goes through a byte unchanged. -/
theorem FitsByte.map_byte {t : Option Int} (h : FitsByte t) :
    (t.map fun i => UInt8.ofNat i.toNat).map (fun b => Int.ofNat b.toNat) = t := by
  cases t with
  | none => rfl
  | some i =>
    obtain ⟨h0, h256⟩ := h i rfl
    have hmod : i.toNat % 256 = i.toNat := Nat.mod_eq_of_lt (by omega)
    simp only [Option.map_some, UInt8.toNat_ofNat', Nat.reducePow, hmod, Option.some.injEq,
      Int.ofNat_eq_natCast]
    omega

namespace Frame

variable {f : Frame}

/-- The coded frame that is read back from the blocks of a frame. -/
def recoded (f : Frame) : CodedFrame :=
  let interlaced := interlaceMinimum ≤ min f.image.width f.image.height
  { left := f.left.toNat
    top := f.top.toNat
    width := f.image.width
    height := f.image.height
    interlaced := interlaced
    palette := ColorTable.padded f.palette
    minCodeSize := UInt8.ofNat Lzw.pixelBits
    chunks := SubBlocks.ofBytes (Lzw.encode (f.image.serialize interlaced))
    control :=
      { delay := f.delay.toNat
        disposal := f.disposal.toNat
        transparency := f.transparency.map fun i => UInt8.ofNat i.toNat } }

/-- The coded frame that the encoder makes before it puts in offset and timing. -/
def compressed (f : Frame) : CodedFrame :=
  { f.recoded with
    left := 0
    top := 0
    control := { transparency := f.transparency.map fun i => UInt8.ofNat i.toNat } }

/-- Compressed pixels are decompressed. -/
theorem decode_recoded (h : f.Encodable) : f.recoded.decode = .ok f.image := by
  have hpixels : ¬ pixelLimit < f.recoded.width * f.recoded.height := Nat.not_lt.2 h.pixels
  have hsize := f.image.size_serialize f.recoded.interlaced
  have hpos : 0 < f.image.width * f.image.height := Nat.mul_pos h.width.1 h.height.1
  have hcells : Lzw.decode? f.recoded.minCodeSize.toNat (f.recoded.width * f.recoded.height)
      f.recoded.chunks.flatten = some (f.image.serialize f.recoded.interlaced) := by
    have hround := Lzw.decode?_encode _ (hsize ▸ hpos)
    rw [hsize] at hround
    rw [recoded, SubBlocks.flatten_ofBytes]
    exact hround
  unfold CodedFrame.decode
  rw [if_neg hpixels, hcells]
  simp only [recoded, Raster.deserialize_serialize]

theorem ofCoded_recoded (h : f.Encodable) : ofCoded f.recoded = .ok f.padded := by
  have hleft : (f.left.toNat : Int) = f.left := Int.toNat_of_nonneg h.left.1
  have htop : (f.top.toNat : Int) = f.top := Int.toNat_of_nonneg h.top.1
  have hdelay : (f.delay.toNat : Int) = f.delay := Int.toNat_of_nonneg h.delay.1
  have hdisposal : (f.disposal.toNat : Int) = f.disposal := Int.toNat_of_nonneg h.disposal.1
  unfold ofCoded
  rw [decode_recoded h]
  simp only [recoded, padded, hleft, htop, hdelay, hdisposal, h.transparency.map_byte]

theorem toCoded_eq (h : f.Encodable) : f.toCoded = .ok f.compressed := by
  obtain ⟨n, hn⟩ := h.palette
  have hentries : ¬ maxEntries < f.palette.length / 3 := by
    rw [hn.entries]
    exact Nat.not_lt.2 hn.le
  have hempty : ¬ (f.image.width = 0 ∨ f.image.height = 0) := by
    have := h.width.1
    have := h.height.1
    omega
  have hlarge : ¬ (65535 < f.image.width ∨ 65535 < f.image.height) := by
    have := h.width.2
    have := h.height.2
    omega
  have htransparency : (f.transparency.map fun t => UInt8.ofNat (t % 256).toNat) =
      f.transparency.map fun i => UInt8.ofNat i.toNat := by
    refine Option.map_congr fun t ht => ?_
    obtain ⟨h0, h256⟩ := h.transparency t ht
    rw [Int.emod_eq_of_lt h0 h256]
  unfold toCoded
  rw [if_neg hentries, if_neg hempty, if_neg hlarge]
  simp only [compressed, recoded, ColorTable.writtenPalette_eq hn, htransparency]

/-- A frame has colours, and keeps them with its palette as it is written. -/
theorem colors_padded (h : f.Encodable) :
    ∃ colors, f.toRgba = .ok colors ∧ f.padded.toRgba = .ok colors := by
  obtain ⟨n, hn⟩ := h.palette
  have hcolors := toRgba_eq hn h.transparency
  exact ⟨_, hcolors, (toRgba_padded hn h.transparency).trans hcolors⟩

/-- The blocks of a frame scan as its coded form. -/
theorem exists_encode (h : f.Encodable) :
    ∃ block, f.encode = .ok block ∧ ∀ globalPalette st rest,
      scan globalPalette st (block ++ rest) =
        scan globalPalette { st with control := {}, frames := f.recoded :: st.frames } rest := by
  obtain ⟨n, hn⟩ := h.palette
  obtain ⟨k, hfull⟩ := ColorTable.full_padded hn
  have hw : FitsField f.image.width := ⟨by omega, by have := h.width.2; omega⟩
  have hh : FitsField f.image.height := ⟨by omega, by have := h.height.2; omega⟩
  obtain ⟨control, hcontrol, hscanControl⟩ :=
    scan_controlBlock h.delay h.disposal h.transparency
  obtain ⟨image, himage, hscanImage⟩ :=
    scan_imageBlock (f := f.compressed) hfull h.left h.top hw hh h.width.1 h.height.1
      (SubBlocks.wellFormed_ofBytes _)
  refine ⟨control ++ image, ?_, fun globalPalette st rest => ?_⟩
  · unfold encode
    rw [toCoded_eq h]
    simp only [compressed, h.transparency.map_byte, hcontrol]
    rw [← compressed, himage]
  · rw [List.append_assoc, hscanControl, hscanImage]
    rfl

end Frame

/-! ## All frames -/

/-- The blocks of a sequence of frames scan as their coded forms, in order. -/
theorem exists_encodeFrames {frames : List Frame} (h : ∀ f ∈ frames, f.Encodable) :
    ∃ blocks, encodeFrames frames = .ok blocks ∧ ∀ globalPalette loopCount read rest,
      scan globalPalette { loopCount := loopCount, frames := read } (blocks ++ rest) =
        scan globalPalette
          { loopCount := loopCount
            frames := (frames.map Frame.recoded).reverse ++ read } rest := by
  induction frames with
  | nil => exact ⟨[], rfl, fun globalPalette loopCount read rest => rfl⟩
  | cons f frames ih =>
    obtain ⟨block, hblock, hscan⟩ := Frame.exists_encode (h f (by simp))
    obtain ⟨blocks, hblocks, hscans⟩ := ih fun g hg => h g (List.mem_cons_of_mem _ hg)
    refine ⟨block ++ blocks, by simp only [encodeFrames, hblock, hblocks],
      fun globalPalette loopCount read rest => ?_⟩
    rw [List.append_assoc, hscan, hscans, List.map_cons, List.reverse_cons, List.append_assoc]
    rfl

theorem decodeFrames_recoded {frames : List Frame} (h : ∀ f ∈ frames, f.Encodable) :
    decodeFrames (frames.map Frame.recoded) = .ok (frames.map Frame.padded) := by
  induction frames with
  | nil => rfl
  | cons f frames ih =>
    have hf := Frame.ofCoded_recoded (h f (by simp))
    have hrest := ih fun g hg => h g (List.mem_cons_of_mem _ hg)
    simp only [List.map_cons, decodeFrames, hf, hrest]

/-- The loop block, or nothing, gives the loop count. -/
theorem exists_loopBlock {loopCount : Option Int} (h : ∀ n, loopCount = some n → FitsField n) :
    ∃ block, loopBlock? loopCount = .ok block ∧ ∀ globalPalette rest,
      scan globalPalette {} (block ++ rest) =
        scan globalPalette { loopCount := loopCount.map Int.toNat } rest := by
  cases loopCount with
  | none => exact ⟨[], rfl, fun globalPalette rest => rfl⟩
  | some n =>
    obtain ⟨block, hblock, hscan⟩ := scan_loopBlock (h n rfl)
    exact ⟨block, by simp only [loopBlock?, hblock], fun globalPalette rest => hscan _ _ _⟩

namespace Animation

variable {a : Animation}

/-- An encodable animation is written, and read back as it was written. -/
theorem exists_encode (h : a.Encodable) :
    ∃ bs, a.encode = .ok bs ∧ decode bs = .ok a.padded := by
  obtain ⟨screen, hscreen, hparse⟩ := parse_screenDescriptor h.width h.height
  obtain ⟨loop, hloop, hscanLoop⟩ := exists_loopBlock h.loopCount
  obtain ⟨blocks, hblocks, hscanFrames⟩ := exists_encodeFrames h.each
  have hne : a.frames.isEmpty = false := by
    have := h.frames
    rwa [← List.isEmpty_eq_false_iff] at this
  have hscan : scan [] {} (loop ++ (blocks ++ [trailer])) =
      .ok { loopCount := a.loopCount.map Int.toNat,
            frames := (a.frames.map Frame.recoded).reverse } := by
    rw [hscanLoop, hscanFrames, List.append_nil]
    unfold scan
    exact if_pos rfl
  have hcontainer := hparse _ _ hscan (by simpa using h.frames)
  have hloopCount : (a.loopCount.map Int.toNat).map Int.ofNat = a.loopCount := by
    cases hl : a.loopCount with
    | none => rfl
    | some n =>
      simp only [Option.map_some, Int.ofNat_eq_natCast,
        Int.toNat_of_nonneg (h.loopCount n hl).1]
  refine ⟨screen ++ loop ++ blocks ++ [trailer], ?_, ?_⟩
  · unfold encode
    rw [hne, hscreen, hloop, hblocks]
    rfl
  · rw [List.append_assoc, List.append_assoc]
    unfold decode
    rw [hcontainer]
    simp only [List.reverse_reverse, decodeFrames_recoded h.each, padded, hloopCount,
      Int.toNat_of_nonneg h.width.1, Int.toNat_of_nonneg h.height.1]
    rfl

/-- **Decoding undoes encoding.** Every encodable animation is written, and reading it gives the
same canvas, loop count and frames in the same order. Only the palettes are filled up with black,
which changes no colour of any frame, and the background is the first entry. -/
theorem decode_encode (h : a.Encodable) :
    ∃ bs, a.encode = .ok bs ∧ decode bs = .ok a.padded ∧
      ∀ f ∈ a.frames, ∃ colors, f.toRgba = .ok colors ∧ f.padded.toRgba = .ok colors := by
  obtain ⟨bs, hencode, hdecode⟩ := exists_encode h
  exact ⟨bs, hencode, hdecode, fun f hf => Frame.colors_padded (h.each f hf)⟩

/-- Two equal frames of three pixels in a row, the second colour of two being transparent. -/
def blink : Animation :=
  let frame : Frame :=
    { image := ⟨3, 1, #[0, 1, 0], rfl⟩
      palette := [255, 0, 0, 0, 0, 255]
      delay := 20
      disposal := 2
      transparency := some 1 }
  { width := 3, height := 1, frames := [frame, frame], loopCount := some 0 }

/-- The hypotheses of `decode_encode` hold of an animation, and so does its conclusion. -/
theorem blink_decode_encode :
    blink.Encodable ∧ ∃ bs, blink.encode = .ok bs ∧ decode bs = .ok blink.padded ∧
      ∀ f ∈ blink.frames, ∃ colors, f.toRgba = .ok colors ∧ f.padded.toRgba = .ok colors := by
  have h : blink.Encodable :=
    { frames := by simp [blink]
      width := ⟨by decide, by decide⟩
      height := ⟨by decide, by decide⟩
      loopCount := by
        intro n hn
        cases hn
        exact ⟨by decide, by decide⟩
      each := by
        intro f hf
        simp only [blink, List.mem_cons, List.not_mem_nil, or_false, or_self] at hf
        subst hf
        exact
          { width := by decide
            height := by decide
            pixels := by decide
            palette := ⟨2, by decide, by decide, rfl⟩
            left := ⟨by decide, by decide⟩
            top := ⟨by decide, by decide⟩
            delay := ⟨by decide, by decide⟩
            disposal := by decide
            transparency := by
              intro t ht
              cases ht
              decide } }
  exact ⟨h, decode_encode h⟩

end Animation

end Portrait.Gif
