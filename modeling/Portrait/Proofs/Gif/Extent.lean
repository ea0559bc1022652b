import Portrait.Proofs.Gif.Pipeline
import Portrait.Still.Probe

/-!
# How large a written animation is

The gate for uploads opens a GIF as a still picture, and takes for its size what the canvas and the
first frame cover together. A frame that hangs off the canvas makes the picture larger than the
canvas; whether there is one after fitting is decided by whether there was one before, since an
animation that has the wanted canvas already is not painted anew.

* `Frame.Inside` — the frame does not hang off a square canvas.
* `skipSubBlocks_encode`, `findFirst_extension` — the lenient reader passes over what is written.
* `Animation.open_encode` — what it reports of a written animation.
* `Animation.exists_prepare` — what fitting makes of a decoded animation.

Main statement: `transcode_inside_iff`. `overhang_survives` is an upload that passes the gate and is
stored as it is, larger than it should be.
-/

set_option autoImplicit false

namespace Portrait.Gif

/-- The frame lies on a canvas of `size` by `size`. -/
structure Frame.Inside (size : Int) (f : Frame) : Prop where
  right : f.left + f.image.width ≤ size
  bottom : f.top + f.image.height ≤ size

/-! ## Passing over extensions -/

section Skipping

variable {chunk : Bytes} {chunks : List Bytes} {rest : Bytes}

theorem subBlock?_encode (h : SubBlocks.WellFormed chunk) :
    subBlock? (SubBlocks.encode (chunk :: chunks) ++ rest) =
      some (chunk, SubBlocks.encode chunks ++ rest) := by
  rw [SubBlocks.encode, List.cons_append, subBlock?, if_neg (SubBlocks.size_ne_zero h),
    SubBlocks.toNat_size h, List.append_assoc, List.take_left, List.drop_left]

theorem skipSubBlocks_encode (h : ∀ c ∈ chunks, SubBlocks.WellFormed c) :
    skipSubBlocks (SubBlocks.encode chunks ++ rest) = rest := by
  induction chunks with
  | nil =>
    unfold skipSubBlocks
    rfl
  | cons c chunks ih =>
    have hc := h c (by simp)
    have hne : c ≠ [] := List.length_pos_iff.1 hc.1
    unfold skipSubBlocks
    split
    · rename_i hnone
      rw [subBlock?_encode hc] at hnone
      cases hnone
    · rename_i block after hsome
      rw [subBlock?_encode hc] at hsome
      cases hsome
      rw [if_neg hne]
      exact ih fun d hd => h d (List.mem_cons_of_mem _ hd)

/-- An extension that is written is passed over, if its first sub-block makes sense. -/
theorem findFirst_extension {label : UInt8} {width height : Nat} {globalPalette : Option Bytes}
    {transparency next : Option UInt8}
    (h : ∀ c ∈ chunk :: chunks, SubBlocks.WellFormed c)
    (hindex : indexAfter transparency label (some chunk) = .ok next)
    (hskip : skipExtension label (some chunk) (SubBlocks.encode chunks ++ rest) = rest) :
    findFirst width height globalPalette transparency
        ([extensionIntroducer, label] ++ SubBlocks.encode (chunk :: chunks) ++ rest) =
      findFirst width height globalPalette next rest := by
  have hfirst : firstBlock (SubBlocks.encode (chunk :: chunks) ++ rest) =
      (some chunk, SubBlocks.encode chunks ++ rest) := by
    unfold firstBlock
    rw [subBlock?_encode (h chunk (by simp))]
  rw [List.append_assoc, List.cons_append, List.cons_append, List.nil_append]
  conv_lhs => unfold findFirst
  rw [if_neg (by decide), if_pos rfl]
  simp only [hfirst, hindex, hskip]

end Skipping

/-! ## What is written -/

section Written

variable {width height : Nat} {globalPalette : Option Bytes} {transparency : Option UInt8}
  {block rest : Bytes}

theorem exists_of_u16Field {n : Int} (h : u16Field n = some block) :
    ∃ lo hi, block = [lo, hi] ∧ Bytes.ofLE [lo, hi] = n.toNat := by
  by_cases hfits : FitsField n
  · obtain ⟨lo, hi, hfield, hvalue⟩ := u16Field_eq hfits
    rw [hfield] at h
    cases h
    exact ⟨lo, hi, rfl, hvalue⟩
  · have hnone : u16Field n = none := if_neg hfits
    rw [hnone] at h
    cases h

theorem findFirst_loopBlock {loopCount : Option Int} (h : loopBlock? loopCount = .ok block) :
    findFirst width height globalPalette transparency (block ++ rest) =
      findFirst width height globalPalette transparency rest := by
  cases loopCount with
  | none =>
    cases h
    rfl
  | some n =>
    cases hn : u16Field n with
    | none =>
      simp only [loopBlock?, loopBlock, hn] at h
      cases h
    | some count =>
      obtain ⟨lo, hi, rfl, -⟩ := exists_of_u16Field hn
      simp only [loopBlock?, loopBlock, hn] at h
      cases h
      refine findFirst_extension ?_ rfl ?_
      · intro c hc
        simp only [List.mem_cons, List.not_mem_nil, or_false] at hc
        rcases hc with rfl | rfl
        · exact ⟨by decide, by decide⟩
        · exact ⟨by simp, by simp⟩
      · have hcount : SubBlocks.WellFormed [1, lo, hi] := ⟨by simp, by simp⟩
        unfold skipExtension
        rw [subBlock?_encode hcount]
        exact skipSubBlocks_encode (by simp)

theorem findFirst_controlBlock {delay disposal : Int} {index : Option Int}
    (h : controlBlock delay disposal index = some block) :
    ∃ next, findFirst width height globalPalette transparency (block ++ rest) =
      findFirst width height globalPalette next rest := by
  unfold controlBlock at h
  split at h
  · rename_i d t hd ht
    cases h
    obtain ⟨lo, hi, rfl, -⟩ := exists_of_u16Field hd
    obtain ⟨i, rfl⟩ : ∃ i, t = [i] := by
      unfold u8Field at ht
      split at ht
      · cases ht
        exact ⟨_, rfl⟩
      · cases ht
    obtain ⟨next, hnext⟩ : ∃ next, indexAfter transparency graphicControlLabel
        (some [controlPacked disposal index, lo, hi, i]) = .ok next := by
      simp only [indexAfter, if_true, controlIndex]
      split <;> exact ⟨_, rfl⟩
    refine ⟨next, findFirst_extension ?_ hnext ?_⟩
    · intro c hc
      obtain rfl := List.mem_singleton.1 hc
      exact ⟨by simp, by simp⟩
    · exact skipSubBlocks_encode (by simp)
  · cases h

/-- The image block makes the picture as large as canvas and image need. -/
theorem findFirst_imageBlock {c : CodedFrame} {left top : Int} {k : Nat}
    (hfull : ColorTable.Full c.palette k) (h : imageBlock c left top true = some block)
    (hlimit : max 1 (max width (left.toNat + c.width)) * max 1 (max height (top.toNat + c.height)) ≤
      pixelLimit) :
    ∃ s, findFirst width height globalPalette transparency (block ++ rest) = .ok s ∧
      s.width = max width (left.toNat + c.width) ∧
      s.height = max height (top.toNat + c.height) := by
  unfold imageBlock at h
  split at h
  · rename_i l t w hh hl ht hw hh'
    cases h
    obtain ⟨l0, l1, rfl, hleft⟩ := exists_of_u16Field hl
    obtain ⟨t0, t1, rfl, htop⟩ := exists_of_u16Field ht
    obtain ⟨w0, w1, rfl, hwidth⟩ := exists_of_u16Field hw
    obtain ⟨h0, h1, rfl, hheight⟩ := exists_of_u16Field hh'
    rw [Int.toNat_natCast] at hwidth hheight
    obtain ⟨hflag, -, hsize⟩ := ColorTable.descriptor_bits c.interlaced hfull.lt
    have hpacked : imagePacked c true =
        (if c.interlaced then interlaceFlag else 0) ||| (colorTableFlag ||| UInt8.ofNat k) := by
      rw [imagePacked, if_pos rfl, hfull.sizeBits_eq]
    rw [← hpacked] at hflag hsize
    have hsmall : ¬ ((width < left.toNat + c.width ∨ height < top.toNat + c.height) ∧
        pixelLimit < max 1 (max width (left.toNat + c.width)) *
          max 1 (max height (top.toNat + c.height))) :=
      fun hlarge => Nat.not_lt.2 hlimit hlarge.2
    have hdrop (more : Bytes) : (c.palette ++ more).drop (3 * 2 ^ (k + 1)) = more :=
      List.drop_left' hfull.length
    simp only [if_true, hfull.pad_eq, List.cons_append, List.nil_append, List.append_assoc]
    unfold findFirst
    rw [if_neg (by decide), if_neg (by decide), if_pos rfl]
    unfold readFirst
    simp only [hleft, htop, hwidth, hheight, if_neg hsmall, if_neg hflag, hsize, hdrop]
    exact ⟨_, rfl, rfl, rfl⟩
  · cases h

end Written

/-! ## What the gate sees -/

namespace Animation

variable {a : Animation} {f : Frame} {frames : List Frame} {bs : Bytes}

/-- A written animation begins with its screen descriptor, its loop block and its first frame. -/
theorem exists_parts_of_encode (hf : a.frames = f :: frames) (hbs : a.encode = .ok bs) :
    ∃ screen loop block more, screenDescriptor a.width a.height = some screen ∧
      loopBlock? a.loopCount = .ok loop ∧ f.encode = .ok block ∧
      bs = screen ++ (loop ++ (block ++ more)) := by
  unfold encode at hbs
  split at hbs
  · cases hbs
  split at hbs
  · cases hbs
  rename_i screen hscreen
  split at hbs
  · cases hbs
  rename_i loop hloop
  split at hbs
  · cases hbs
  rename_i blocks hblocks
  cases hbs
  rw [hf] at hblocks
  unfold encodeFrames at hblocks
  split at hblocks
  · cases hblocks
  rename_i block hblock
  split at hblocks
  · cases hblocks
  rename_i others hothers
  cases hblocks
  exact ⟨screen, loop, block, others ++ [trailer], hscreen, hloop, hblock,
    by simp only [List.append_assoc]⟩

/-- The first frame makes the picture as large as canvas and frame need. -/
theorem findFirst_encode {width height : Nat} {globalPalette : Option Bytes}
    {transparency : Option UInt8} {block rest : Bytes} (h : f.Encodable) (hblock : f.encode = .ok block)
    (hlimit : max 1 (max width (f.left.toNat + f.image.width)) *
      max 1 (max height (f.top.toNat + f.image.height)) ≤ pixelLimit) :
    ∃ s, findFirst width height globalPalette transparency (block ++ rest) = .ok s ∧
      s.width = max width (f.left.toNat + f.image.width) ∧
      s.height = max height (f.top.toNat + f.image.height) := by
  obtain ⟨n, hn⟩ := h.palette
  obtain ⟨k, hfull⟩ := ColorTable.full_padded hn
  unfold Frame.encode at hblock
  rw [Frame.toCoded_eq h] at hblock
  dsimp only at hblock
  split at hblock
  · rename_i control image hcontrol himage
    cases hblock
    obtain ⟨next, hnext⟩ : ∃ next,
        findFirst width height globalPalette transparency (control ++ (image ++ rest)) =
          findFirst width height globalPalette next (image ++ rest) :=
      findFirst_controlBlock hcontrol
    rw [List.append_assoc, hnext]
    exact findFirst_imageBlock (c := f.compressed) hfull himage hlimit
  · cases hblock

/-- **A written animation is opened as large as its canvas and its first frame are together.** -/
theorem open_encode (h : a.Encodable) (hf : a.frames = f :: frames) (hbs : a.encode = .ok bs)
    (hlimit : max 1 (max a.width.toNat (f.left.toNat + f.image.width)) *
      max 1 (max a.height.toNat (f.top.toNat + f.image.height)) ≤ pixelLimit) :
    ∃ s, Still.open bs = .ok s ∧ s.width = max a.width.toNat (f.left.toNat + f.image.width) ∧
      s.height = max a.height.toNat (f.top.toNat + f.image.height) := by
  have hfirst : f.Encodable := h.each f (by simp [hf])
  obtain ⟨screen, loop, block, more, hscreen, hloop, hblock, rfl⟩ := exists_parts_of_encode hf hbs
  obtain ⟨w0, w1, hw, hwidth⟩ := u16Field_eq h.width
  obtain ⟨h0, h1, hh, hheight⟩ := u16Field_eq h.height
  simp only [screenDescriptor, hw, hh] at hscreen
  cases hscreen
  obtain ⟨s, hs, hswidth, hsheight⟩ :
      ∃ s, findFirst a.width.toNat a.height.toNat none none (block ++ more) = .ok s ∧
        s.width = max a.width.toNat (f.left.toNat + f.image.width) ∧
        s.height = max a.height.toNat (f.top.toNat + f.image.height) :=
    findFirst_encode hfirst hblock hlimit
  have hsome : ¬ (s.width = 0 ∨ s.height = 0) := by
    have := hfirst.width.1
    have := hfirst.height.1
    omega
  refine ⟨s, ?_, hswidth, hsheight⟩
  have hdrop : (signature89 ++ [w0, w1] ++ [h0, h1] ++ [0, 0, 0] ++ (loop ++ (block ++ more))).drop 6 =
      w0 :: w1 :: h0 :: h1 :: 0 :: 0 :: 0 :: (loop ++ (block ++ more)) := rfl
  have hflag : (0 : UInt8) &&& colorTableFlag = 0 := by decide
  unfold Still.open
  rw [hdrop]
  simp only [hwidth, hheight, hflag, if_true, List.drop_succ_cons, List.drop_zero, ne_eq, not_true,
    false_and, if_false, findFirst_loopBlock hloop, hs, if_neg hsome]

variable {size : Int}

/-- A frame inside a canvas of `size` by `size` makes it no larger. -/
theorem max_of_inside (h : a.Encodable) (hf : a.frames = f :: frames) (hin : f.Inside size) :
    max size.toNat (f.left.toNat + f.image.width) = size.toNat ∧
      max size.toNat (f.top.toNat + f.image.height) = size.toNat := by
  have hfirst : f.Encodable := h.each f (by simp [hf])
  have := hfirst.left.1
  have := hfirst.top.1
  have := hin.right
  have := hin.bottom
  omega

/-- The gate reports the canvas of a written animation whose first frame is inside. -/
theorem probe_encode {least greatest : Int} (h : a.Encodable) (hw : a.width = size)
    (hh : a.height = size) (hf : a.frames = f :: frames) (hin : f.Inside size)
    (hbs : a.encode = .ok bs) (hpos : 0 < size) (hlimit : size * size ≤ pixelLimit)
    (hleast : least ≤ size) (hgreatest : size ≤ greatest) :
    probe bs least greatest = .ok ⟨.gif, size.toNat, size.toNat⟩ := by
  obtain ⟨hmaxw, hmaxh⟩ := max_of_inside h hf hin
  have hone : max 1 size.toNat = size.toNat := by omega
  have hsquare : size.toNat * size.toNat ≤ pixelLimit := by
    have hcast : ((size.toNat * size.toNat : Nat) : Int) = size * size := by
      rw [Int.natCast_mul, Int.toNat_of_nonneg (Int.le_of_lt hpos)]
    omega
  obtain ⟨s, hopen, hwidth, hheight⟩ := open_encode h hf hbs
    (by rw [hw, hh, hmaxw, hmaxh, hone]; exact hsquare)
  rw [hw, hmaxw] at hwidth
  rw [hh, hmaxh] at hheight
  have hformat : Format.ofPrefix? bs = some .gif := by
    obtain ⟨screen, loop, block, more, hscreen, -, -, rfl⟩ := exists_parts_of_encode hf hbs
    unfold screenDescriptor at hscreen
    split at hscreen
    · cases hscreen
      rfl
    · cases hscreen
  have hstill : Portrait.Still.open bs = .ok (.gif s) := by
    unfold Portrait.Still.open Portrait.Still.openAs
    simp only [hformat, hopen, Except.map, Portrait.Still.size, hwidth, hheight, hone,
      if_neg (Nat.not_lt.2 hsquare)]
  have hnat : (size.toNat : Int) = size := Int.toNat_of_nonneg (Int.le_of_lt hpos)
  unfold probe
  simp only [hstill, Portrait.Still.size, hwidth, hheight, hnat]
  rw [if_neg (by omega), if_neg (by omega)]
  rfl

end Animation

/-! ## Stored animations -/

namespace Frame

variable {size : Int} {f g : Frame}

/-- A frame keeps its place when its palette is written. -/
theorem inside_padded : f.padded.Inside size ↔ f.Inside size := ⟨fun h => ⟨h.1, h.2⟩, fun h => ⟨h.1, h.2⟩⟩

/-- A fitted frame covers the canvas and no more. -/
theorem Shows.inside {sampling : Nat → Nat → Option (Nat × Nat)} {shown : List Frame} {side : Nat}
    (h : f.Shows sampling side shown g) : g.Inside side := by
  rw [h.kept]
  exact ⟨by simp [h.width], by simp [h.height]⟩

end Frame

/-- **A stored animation stays inside its canvas if and only if the upload did, or was painted anew.**
If it does, the gate finds it as large as it should be. -/
theorem transcode_inside_iff {data out : Bytes} {size : Int} (hsize : 50 ≤ size ∧ size ≤ 2000)
    (hout : transcode data size = .ok out) :
    ∃ a c, Animation.decode data = .ok a ∧ Animation.decode out = .ok c ∧
      c.width = size ∧ c.height = size ∧
      ((∀ f ∈ c.frames, f.Inside size) ↔
        (a.width = size ∧ a.height = size → ∀ f ∈ a.frames, f.Inside size)) ∧
      ((∀ f ∈ c.frames, f.Inside size) →
        probe out 50 2000 = .ok ⟨.gif, size.toNat, size.toNat⟩) := by
  have hpos : 0 < size := by omega
  have hlimit : size * size ≤ pixelLimit := by
    have : size * size ≤ 2000 * 2000 :=
      Int.mul_le_mul hsize.2 hsize.2 (by omega) (by decide)
    exact Int.le_trans this (by decide)
  obtain ⟨a, hdecode⟩ : ∃ a, Animation.decode data = .ok a := by
    unfold transcode Animation.prepare at hout
    cases hd : Animation.decode data with
    | error e =>
      rw [hd] at hout
      cases hout
    | ok a => exact ⟨a, rfl⟩
  obtain ⟨b, hprepare, hb, hwidth, hheight, -, hframes⟩ :=
    Animation.exists_prepare hdecode hpos hlimit
  obtain ⟨bs, hencode, hout'⟩ := Animation.exists_encode hb
  obtain rfl : bs = out := by
    unfold transcode at hout
    rw [hprepare] at hout
    exact Except.ok.inj (hencode.symm.trans hout)
  have hpadded : (∀ f ∈ b.padded.frames, f.Inside size) ↔ ∀ f ∈ b.frames, f.Inside size := by
    simp only [Animation.padded, List.forall_mem_map, Frame.inside_padded]
  refine ⟨a, b.padded, hdecode, hout', hwidth, hheight, hpadded.trans ?_, fun hinside => ?_⟩
  · split at hframes
    · rename_i hsame
      rw [hframes]
      exact ⟨fun h _ => h, fun h => h hsame⟩
    · rename_i hother
      have hfits : ∀ g ∈ b.frames, g.Inside size := by
        intro g hg
        obtain ⟨f, -, below, hshows⟩ := hframes.exists_of_mem hg
        have hinside := hshows.inside
        rwa [Int.toNat_of_nonneg (Int.le_of_lt hpos)] at hinside
      exact ⟨fun _ hsame => absurd hsame hother, fun _ => hfits⟩
  · obtain ⟨f, frames, hf⟩ := List.exists_cons_of_ne_nil hb.frames
    have hin : f.Inside size := hpadded.1 hinside f (by simp [hf])
    exact Animation.probe_encode hb hwidth hheight hf hin hencode hpos hlimit hsize.1 hsize.2

/-- A file with a canvas of 100 by 100 and one frame of one pixel, in column `x` of row `y`. -/
def dot (x y : UInt8) : Bytes :=
  signature89 ++ [100, 0, 100, 0, 0, 0, 0] ++ [0x21, 0xF9, 4, 0, 0, 0, 0, 0] ++
    [0x2C, x, 0, y, 0, 1, 0, 1, 0, 0x81, 255, 0, 0, 0, 0, 0, 0, 0, 0, 0, 0, 0, 8, 4, 0, 1, 4, 4, 0,
      trailer]

/-- The hypotheses of `transcode_inside_iff` hold of a file and a size, and so does its conclusion. -/
theorem dot_transcode_inside :
    transcode (dot 99 99) 100 = .ok (dot 99 99) ∧
      ∃ a c, Animation.decode (dot 99 99) = .ok a ∧ Animation.decode (dot 99 99) = .ok c ∧
        c.width = 100 ∧ c.height = 100 ∧
        ((∀ f ∈ c.frames, f.Inside 100) ↔
          (a.width = 100 ∧ a.height = 100 → ∀ f ∈ a.frames, f.Inside 100)) ∧
        ((∀ f ∈ c.frames, f.Inside 100) →
          probe (dot 99 99) 50 2000 = .ok ⟨.gif, (100 : Int).toNat, (100 : Int).toNat⟩) := by
  have h : transcode (dot 99 99) 100 = .ok (dot 99 99) := by decide +kernel
  exact ⟨h, transcode_inside_iff (by decide) h⟩

/-- **An upload may be stored larger than it should be.** A frame just beyond the lower right corner
passes the gate, is stored as it is, and makes the stored picture larger than its canvas. -/
theorem overhang_survives :
    probe (dot 100 100) 50 2000 = .ok ⟨.gif, 101, 101⟩ ∧
      transcode (dot 100 100) 100 = .ok (dot 100 100) ∧
      ∃ c, Animation.decode (dot 100 100) = .ok c ∧ ¬ ∀ f ∈ c.frames, f.Inside 100 := by
  refine ⟨by decide +kernel, by decide +kernel, _, by with_unfolding_all rfl, ?_⟩
  intro h
  exact absurd (h _ (List.mem_singleton.2 rfl)).right (by decide)

end Portrait.Gif
