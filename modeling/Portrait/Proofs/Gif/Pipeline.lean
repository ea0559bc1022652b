import Mathlib.Data.List.Forall2
import Portrait.Proofs.Gif.Compositing
import Portrait.Proofs.Gif.Decoded

/-!
# The pipeline keeps the animation

An animation is decoded, fitted to a square canvas and encoded again. Whatever the canvas, the
offsets, the palettes and the pixel indices are, every frame comes through, in its place, with its
timing and its palette; an animation whose canvas has the size already comes through as it is.

* `Frame.Kept`, `Frame.Fills`, `Frame.Unmoved` — what a frame may rely on.
* `Frame.Encodable.fitted` — a fitted frame can be written if the frame could.
* `Animation.exists_prepare` — what is decoded can be fitted, and the result can be written.

Main statement: `Animation.transcode_keeps`.
-/

set_option autoImplicit false

namespace Portrait.Gif

/-! ## What is kept -/

namespace Frame

/-- Timing, transparent index and palette, up to black at its end. -/
structure Kept (f g : Frame) : Prop where
  delay : g.delay = f.delay
  disposal : g.disposal = f.disposal
  transparency : g.transparency = f.transparency
  palette : g.palette = ColorTable.padded f.palette

/-- The frame covers a canvas of `size` by `size`. -/
structure Fills (size : Int) (g : Frame) : Prop where
  width : g.image.width = size
  height : g.image.height = size
  left : g.left = 0
  top : g.top = 0

/-- Size, pixel indices, offset and colours. -/
structure Unmoved (f g : Frame) : Prop where
  image : g.image = f.image
  left : g.left = f.left
  top : g.top = f.top
  colors : ∃ colors, f.toRgba = .ok colors ∧ g.toRgba = .ok colors

variable {f : Frame}

theorem kept_padded (f : Frame) : f.Kept f.padded := ⟨rfl, rfl, rfl, rfl⟩

theorem Encodable.unmoved_padded (h : f.Encodable) : f.Unmoved f.padded :=
  ⟨rfl, rfl, rfl, colors_padded h⟩

/-- A side whose square is an allowed number of pixels fits a field. -/
theorem fitsField_of_square {size : Int} (hpos : 0 < size) (hlimit : size * size ≤ pixelLimit) :
    FitsField size := by
  refine ⟨Int.le_of_lt hpos, ?_⟩
  by_contra hlarge
  have hsquare : 65536 * 65536 ≤ size * size :=
    Int.mul_le_mul (Int.not_lt.1 hlarge) (Int.not_lt.1 hlarge) (by decide) (Int.le_of_lt hpos)
  have := Int.le_trans hsquare hlimit
  revert this
  decide

/-- A frame that can be written can be painted. -/
theorem Encodable.paintable (h : f.Encodable) : f.Paintable := ⟨h.palette, h.transparency⟩

section Shows

variable {sampling : Nat → Nat → Option (Nat × Nat)} {side : Nat} {shown : List Frame} {g : Frame}

theorem Shows.kept_padded (h : f.Shows sampling side shown g) : f.Kept g.padded := by
  rw [h.kept]
  exact ⟨rfl, rfl, rfl, rfl⟩

theorem Shows.fills (h : f.Shows sampling side shown g) : g.padded.Fills side := by
  have hwidth : (g.image.width : Int) = side := by rw [h.width]
  have hheight : (g.image.height : Int) = side := by rw [h.height]
  rw [h.kept]
  exact ⟨hwidth, hheight, rfl, rfl⟩

/-- A frame that was fitted to a square of an allowed size can be written if it could before. -/
theorem Encodable.fitted (h : f.Encodable) (hg : f.Shows sampling side shown g)
    (hpos : 0 < side) (hlimit : side * side ≤ pixelLimit) : g.Encodable := by
  have hfield := fitsField_of_square (Int.natCast_pos.2 hpos) (Int.ofNat_le.2 hlimit)
  have hzero : FitsField 0 := ⟨by decide, by decide⟩
  rw [hg.kept]
  exact
    { width := by
        rw [hg.width]
        exact ⟨hpos, Nat.le_of_lt_succ (Int.ofNat_lt.1 hfield.2)⟩
      height := by
        rw [hg.height]
        exact ⟨hpos, Nat.le_of_lt_succ (Int.ofNat_lt.1 hfield.2)⟩
      pixels := by
        rw [hg.width, hg.height]
        exact hlimit
      palette := h.palette
      left := hzero
      top := hzero
      delay := h.delay
      disposal := h.disposal
      transparency := h.transparency }

end Shows

end Frame

/-! ## Fitting -/

namespace FramesShow

variable {sampling : Nat → Nat → Option (Nat × Nat)} {side : Nat} {shown frames fitted : List Frame}

/-- Each frame was fitted, whatever is below it. -/
theorem forall₂ (h : FramesShow sampling side shown frames fitted) :
    List.Forall₂ (fun f g => ∃ below, f.Shows sampling side below g) frames fitted := by
  induction h with
  | nil => exact .nil
  | cons hshows _ ih => exact .cons ⟨_, hshows⟩ ih

theorem exists_of_mem (h : FramesShow sampling side shown frames fitted) {g : Frame}
    (hg : g ∈ fitted) : ∃ f ∈ frames, ∃ below, f.Shows sampling side below g := by
  induction h with
  | nil => cases hg
  | cons hshows _ ih =>
    rcases List.mem_cons.1 hg with rfl | hg
    · exact ⟨_, List.mem_cons_self .., _, hshows⟩
    · obtain ⟨f, hf, hrest⟩ := ih hg
      exact ⟨f, List.mem_cons_of_mem _ hf, hrest⟩

end FramesShow

namespace Animation

variable {a : Animation} {size : Int}

theorem Encodable.paintedOn (h : a.Encodable) : a.PaintedOn a.width a.height :=
  ⟨rfl, rfl, fun f hf => (h.each f hf).paintable⟩

/-- **Fitting a decoded animation succeeds**, and the result can be written. It is the animation
itself if its canvas has the size already, and shows the canvas frame by frame otherwise. -/
theorem exists_prepare {data : Bytes} (h : decode data = .ok a) (hpos : 0 < size)
    (hlimit : size * size ≤ pixelLimit) :
    ∃ b, prepare data size = .ok b ∧ b.Encodable ∧ b.width = size ∧ b.height = size ∧
      b.loopCount = a.loopCount ∧
      if a.width = size ∧ a.height = size then b = a
      else FramesShow (Raster.sampling a.width.toNat a.height.toNat size.toNat) size.toNat []
        a.frames b.frames := by
  have hencodable := encodable_of_decode h
  have hprepare : prepare data size = a.fit size := by
    unfold prepare
    rw [h]
  by_cases hsame : a.width = size ∧ a.height = size
  · refine ⟨a, hprepare.trans (if_pos hsame), hencodable, hsame.1, hsame.2, rfl, ?_⟩
    rw [if_pos hsame]
  · obtain ⟨frames, hfit, hshow⟩ :=
      exists_fit_show hencodable.width.1 hencodable.height.1 hpos hsame hencodable.paintedOn
    have hfield := Frame.fitsField_of_square hpos hlimit
    have hside : ((size.toNat : Nat) : Int) = size := Int.toNat_of_nonneg (Int.le_of_lt hpos)
    have hsquare : size.toNat * size.toNat ≤ pixelLimit := by
      rw [← Int.ofNat_le, Int.natCast_mul, hside]
      exact hlimit
    refine ⟨_, hprepare.trans hfit, ?_, rfl, rfl, rfl, ?_⟩
    · exact
        { frames := by
            rw [← List.length_pos_iff, hshow.length_eq]
            exact List.length_pos_iff.2 hencodable.frames
          width := hfield
          height := hfield
          loopCount := hencodable.loopCount
          each := by
            intro g hg
            obtain ⟨f, hf, below, hshows⟩ := hshow.exists_of_mem hg
            exact (hencodable.each f hf).fitted hshows (by omega) hsquare }
    · rw [if_neg hsame]
      exact hshow

/-- **The pipeline keeps the animation.** Whatever bytes decode, and whatever size has a square with
an allowed number of pixels (which is every size up to 13377): fitting and encoding succeed, and the
result decodes to as many frames in the same order, each with its timing and palette, on a canvas of
that size. Frames of an animation of that size stay as they are; all others fill the canvas, and show
what the frames up to them have painted. -/
theorem transcode_keeps {data : Bytes} (h : decode data = .ok a) (hpos : 0 < size)
    (hlimit : size * size ≤ pixelLimit) :
    ∃ fitted bs c, prepare data size = .ok fitted ∧ fitted.encode = .ok bs ∧ decode bs = .ok c ∧
      c.width = size ∧ c.height = size ∧ c.loopCount = a.loopCount ∧
      List.Forall₂ (fun f g => f.Kept g ∧
        if a.width = size ∧ a.height = size then f.Unmoved g else g.Fills size)
        a.frames c.frames ∧
      (¬ (a.width = size ∧ a.height = size) →
        ∀ (i : Nat) (f g : Frame), a.frames[i]? = some f → c.frames[i]? = some g →
          ∃ shown, f.Shows (Raster.sampling a.width.toNat a.height.toNat size.toNat) size.toNat
            (a.frames.take (i + 1)) shown ∧ g = shown.padded) := by
  have hencodable := encodable_of_decode h
  obtain ⟨b, hprepare, hb, hwidth, hheight, hloopCount, hframes⟩ := exists_prepare h hpos hlimit
  obtain ⟨bs, hencode, hdecode⟩ := exists_encode hb
  refine ⟨b, bs, b.padded, hprepare, hencode, hdecode, hwidth, hheight, hloopCount, ?_, ?_⟩
  · rw [padded, List.forall₂_map_right_iff]
    by_cases hsame : a.width = size ∧ a.height = size
    · rw [if_pos hsame] at hframes
      rw [hframes, List.forall₂_same]
      intro f hf
      rw [if_pos hsame]
      exact ⟨f.kept_padded, (hencodable.each f hf).unmoved_padded⟩
    · rw [if_neg hsame] at hframes
      refine hframes.forall₂.imp ?_
      rintro f g ⟨below, hshows⟩
      have hfills := hshows.fills
      rw [Int.toNat_of_nonneg (Int.le_of_lt hpos)] at hfills
      rw [if_neg hsame]
      exact ⟨hshows.kept_padded, hfills⟩
  · intro hother i f g hf hg
    rw [if_neg hother] at hframes
    rw [padded, List.getElem?_map, Option.map_eq_some_iff] at hg
    obtain ⟨shown, hshown, rfl⟩ := hg
    exact ⟨shown, hframes.shows_getElem hf hshown, rfl⟩

/-- The file of `blink`. -/
def blinkFile : Bytes :=
  let control : Bytes := [0x21, 0xF9, 4, 9, 20, 0, 1, 0]
  let image : Bytes :=
    [0x2C, 0, 0, 0, 0, 3, 0, 1, 0, 0x81, 255, 0, 0, 0, 0, 255, 0, 0, 0, 0, 0, 0,
      8, 6, 0, 1, 4, 0, 16, 16, 0]
  signature89 ++ [3, 0, 1, 0, 0, 0, 0] ++ [0x21, 0xFF, 11] ++ loopApplication ++ [3, 1, 0, 0, 0] ++
    control ++ image ++ control ++ image ++ [trailer]

/-- The hypotheses of `transcode_keeps` hold of a file and a size, and so does its conclusion. Both
frames are transparent in the upper left corner, as they are in the middle of the canvas. -/
theorem blinkFile_transcode_keeps :
    decode blinkFile = .ok blink.padded ∧
      ∃ fitted bs c, prepare blinkFile 2 = .ok fitted ∧ fitted.encode = .ok bs ∧
        decode bs = .ok c ∧ c.width = 2 ∧ c.height = 2 ∧ c.loopCount = blink.padded.loopCount ∧
        List.Forall₂ (fun f g => f.Kept g ∧
          if blink.padded.width = 2 ∧ blink.padded.height = 2 then f.Unmoved g else g.Fills 2)
          blink.padded.frames c.frames ∧
        (∀ (i : Nat) (f g : Frame), blink.padded.frames[i]? = some f → c.frames[i]? = some g →
          ∃ shown, f.Shows (Raster.sampling 3 1 2) 2 (blink.padded.frames.take (i + 1)) shown ∧
            g = shown.padded) ∧
        fitted.frames.map (fun g => g.image.get? 0 0) = [some 1, some 1] := by
  have h : decode blinkFile = .ok blink.padded := by with_unfolding_all rfl
  obtain ⟨fitted, bs, c, hprepare, hencode, hdecode, hwidth, hheight, hloopCount, hframes, hshows⟩ :=
    transcode_keeps h (by decide : (0 : Int) < 2) (by decide)
  refine ⟨h, fitted, bs, c, hprepare, hencode, hdecode, hwidth, hheight, hloopCount, hframes,
    hshows (by decide), ?_⟩
  have hcorner : (prepare blinkFile 2).map (fun a => a.frames.map fun g => g.image.get? 0 0) =
      .ok [some 1, some 1] := by decide +kernel
  rw [hprepare] at hcorner
  exact Except.ok.inj hcorner

end Animation

end Portrait.Gif
