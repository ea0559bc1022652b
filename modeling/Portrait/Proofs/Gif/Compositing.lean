import Portrait.Gif.Fit
import Portrait.Proofs.Gif.Codec
import Portrait.Raster.Orientation

/-!
# What a fitted frame shows

Frames are painted one over the other and the canvas is never cleared, so a canvas position has the
colour of the last frame that covers it, also where that frame is fully transparent there. A fitted
frame shows the canvas as it was when the frame had been painted: every target position takes the
colour of one canvas position, which is the same one for all frames, and the entry that this colour
alone would be given in the palette of the frame.

* `Raster.sampling` — the canvas position that a target position is taken from.
* `quantize_pixelwise` — quantizing to a whole palette cannot fail, and treats every pixel on its own.
* `Frame.Covers`, `Frame.colorAt` — the part of the canvas a frame paints, and how.
* `canvasAt`, `canvas` — the canvas after some frames.
* `Frame.Shows` — what a fitted frame shows of the canvas.
* `paint_canvas` — painting the view of a canvas gives the view of the painted canvas.

Main statement: `Animation.fit_shows_canvas`.
-/

set_option autoImplicit false

namespace Portrait

/-! ## Sampling -/

namespace Raster

variable {α β : Type} {width height size : Nat}

/-- The source position that a target position of a filled square is taken from, if there is one. -/
def sampling (width height size x y : Nat) : Option (Nat × Nat) :=
  ((sampleMap width height size).get? x y).join

theorem sampling_inside {x y sx sy : Nat} (h : sampling width height size x y = some (sx, sy)) :
    sx < width ∧ sy < height :=
  sampleMap_inside (Option.join_eq_some_iff.1 h)

theorem get?_sampleMap {x y : Nat} (hx : x < size) (hy : y < size) :
    (sampleMap width height size).get? x y = some (sampling width height size x y) := by
  rw [sampling, get?_eq_some_getD (r := sampleMap width height size) hx hy none]
  rfl

theorem get?_fillNearest {r : Raster α} (hother : ¬ (r.width = size ∧ r.height = size)) (blank : α)
    {x y : Nat} (hx : x < size) (hy : y < size) :
    (fillNearest r size blank).get? x y =
      some (match sampling r.width r.height size x y with
        | some (sx, sy) => r.getD sx sy blank
        | none => blank) := by
  rw [fillNearest, if_neg hother, get?_map, get?_sampleMap hx hy]
  rfl

end Raster

namespace Gif

/-! ## Quantizing -/

/-- A palette has candidates for every transparent index, also for one beyond the palette. -/
theorem candidates_ne_nil {palette : Bytes} {n : Nat} (h : ColorTable.Whole palette n)
    (transparency : Option Int) : candidates palette transparency ≠ [] := by
  have hlen : (paletteEntries palette).length = n := by
    rw [paletteEntries, List.length_map, List.length_zipIdx, ColorTable.length_triplets h.length]
  have hne : paletteEntries palette ≠ [] := by
    have hpos := h.pos
    rw [← hlen] at hpos
    exact List.length_pos_iff.1 hpos
  simp only [candidates]
  split
  · exact hne
  · assumption

/-- Quantization gives each pixel the index that it would be given alone. -/
theorem quantize_pixelwise {palette : Bytes} {n : Nat} (h : ColorTable.Whole palette n)
    (transparency : Option Int) :
    ∃ index : Rgba → UInt8, ∀ image : Raster Rgba,
      quantize image palette transparency = .ok (image.map index) := by
  have hsize : ¬ 256 < (ColorTable.triplets palette).length := by
    rw [ColorTable.length_triplets h.length]
    exact Nat.not_lt.2 h.le
  simp only [quantize, if_neg hsize]
  split
  · rename_i hnone
    exact absurd hnone (candidates_ne_nil h transparency)
  · exact ⟨_, fun _ => rfl⟩

/-! ## The canvas -/

namespace Frame

/-- The frame reaches a canvas position. -/
def Covers (f : Frame) (x y : Nat) : Prop :=
  (f.left ≤ x ∧ x < f.left + f.image.width) ∧ f.top ≤ y ∧ y < f.top + f.image.height

instance (f : Frame) (x y : Nat) : Decidable (f.Covers x y) :=
  inferInstanceAs (Decidable (_ ∧ _))

/-- The colour of a frame at a canvas position that it covers. -/
def colorAt (f : Frame) (x y : Nat) : Rgba :=
  match f.toRgba with
  | .ok colors => colors.getD (x - f.left).toNat (y - f.top).toNat Rgba.clear
  | .error _ => Rgba.clear

/-- A palette and a transparent index that give colours. -/
structure Paintable (f : Frame) : Prop where
  palette : ∃ n, ColorTable.Whole f.palette n
  transparency : FitsByte f.transparency

variable {f : Frame}

theorem Paintable.exists_colors (h : f.Paintable) :
    ∃ colors, f.toRgba = .ok colors ∧ colors.width = f.image.width ∧
      colors.height = f.image.height := by
  obtain ⟨n, hn⟩ := h.palette
  exact ⟨_, toRgba_eq hn h.transparency, rfl, rfl⟩

end Frame

/-- The colour of a canvas position after some frames: that of the last one that covers it. -/
def canvasAt (shown : List Frame) (x y : Nat) : Rgba :=
  match shown.reverse.find? fun f => decide (f.Covers x y) with
  | some f => f.colorAt x y
  | none => Rgba.clear

/-- The canvas after some frames. -/
def canvas (width height : Nat) (shown : List Frame) : Raster Rgba :=
  Raster.ofFn width height (canvasAt shown)

theorem canvasAt_concat (shown : List Frame) (f : Frame) (x y : Nat) :
    canvasAt (shown ++ [f]) x y = if f.Covers x y then f.colorAt x y else canvasAt shown x y := by
  unfold canvasAt
  rw [List.reverse_concat, List.find?_cons]
  by_cases h : f.Covers x y
  · simp only [h, decide_true, if_true]
  · simp only [h, decide_false, if_false]

/-- A fully transparent pixel hides what is below it. -/
example :
    let below : List Frame := Animation.blink.frames.map fun f => { f with transparency := none }
    canvasAt below 1 0 = ⟨0, 0, 255, 255⟩ ∧
      canvasAt (below ++ Animation.blink.frames) 1 0 = ⟨0, 0, 255, 0⟩ := by
  decide +kernel

theorem coveredPixel_eq {f : Frame} {colors : Raster Rgba} (hcolors : f.toRgba = .ok colors)
    (hw : colors.width = f.image.width) (hh : colors.height = f.image.height) (x y : Nat) :
    coveredPixel colors f.left f.top x y = if f.Covers x y then some (f.colorAt x y) else none := by
  simp only [coveredPixel, Frame.Covers, Frame.colorAt, hcolors]
  -- a position left of the frame or above it has no place in the picture to be looked up
  split
  · rename_i hfrom
    split
    · exact Raster.get?_eq_some_getD (by omega) (by omega) _
    · exact Raster.get?_eq_none (by omega)
  · rename_i hbefore
    rw [if_neg (by omega)]

/-! ## The view of the canvas -/

section View

variable {width height size : Nat} {shown : List Frame}

/-- What a target position shows of the canvas. -/
def sampled (sampling : Nat → Nat → Option (Nat × Nat)) (shown : List Frame) (x y : Nat) : Rgba :=
  match sampling x y with
  | some (sx, sy) => canvasAt shown sx sy
  | none => Rgba.clear

/-- The canvas as the target square shows it. -/
def view (width height size : Nat) (shown : List Frame) : Raster Rgba :=
  Raster.fillNearest (canvas width height shown) size Rgba.clear

theorem size_view (hother : ¬ (width = size ∧ height = size)) (shown : List Frame) :
    (view width height size shown).width = size ∧ (view width height size shown).height = size := by
  have hview : view width height size shown = (Raster.sampleMap width height size).map _ :=
    if_neg hother
  rw [hview]
  exact ⟨rfl, rfl⟩

theorem get?_view (hother : ¬ (width = size ∧ height = size)) {x y : Nat} (hx : x < size)
    (hy : y < size) :
    (view width height size shown).get? x y =
      some (sampled (Raster.sampling width height size) shown x y) := by
  rw [view, Raster.get?_fillNearest hother _ hx hy, sampled]
  congr 1
  split
  · rename_i sx sy hsource
    have hsource : Raster.sampling width height size x y = some (sx, sy) := hsource
    obtain ⟨hsx, hsy⟩ := Raster.sampling_inside hsource
    simp only [hsource, Raster.getD, canvas, Raster.get?_ofFn hsx hsy, Option.getD_some]
  · rename_i hsource
    have hsource : Raster.sampling width height size x y = none := hsource
    simp only [hsource]

theorem eq_view (hother : ¬ (width = size ∧ height = size)) {r : Raster Rgba}
    (hw : r.width = size) (hh : r.height = size)
    (h : ∀ x y, x < size → y < size →
      r.get? x y = some (sampled (Raster.sampling width height size) shown x y)) :
    r = view width height size shown := by
  obtain ⟨hvw, hvh⟩ := size_view hother shown
  refine Raster.ext_get? (hw.trans hvw.symm) (hh.trans hvh.symm) fun x y hx hy => ?_
  rw [hw] at hx
  rw [hh] at hy
  rw [h x y hx hy, get?_view hother hx hy]

/-- The empty canvas is clear. -/
theorem filled_clear (hother : ¬ (width = size ∧ height = size)) :
    Raster.filled size size Rgba.clear = view width height size [] := by
  refine eq_view hother rfl rfl fun x y hx hy => ?_
  rw [Raster.get?_filled hx hy, sampled]
  split <;> rfl

/-- Painting the view of a canvas gives the view of the painted canvas. -/
theorem paint_canvas (hother : ¬ (width = size ∧ height = size)) (shown : List Frame) {f : Frame}
    {colors : Raster Rgba} (hcolors : f.toRgba = .ok colors)
    (hw : colors.width = f.image.width) (hh : colors.height = f.image.height) :
    paint (Raster.sampleMap width height size) (view width height size shown) colors f.left f.top =
      view width height size (shown ++ [f]) := by
  refine eq_view hother rfl rfl fun x y hx hy => ?_
  have hpainted : (paint (Raster.sampleMap width height size) (view width height size shown) colors
      f.left f.top).get? x y = some _ := Raster.get?_ofFn hx hy
  rw [hpainted, Raster.get?_sampleMap hx hy, Raster.getD, get?_view hother hx hy, Option.getD_some]
  congr 1
  cases hsource : Raster.sampling width height size x y with
  | none => simp only [sampled, hsource]
  | some source =>
    simp only [sampled, hsource, canvasAt_concat, coveredPixel_eq hcolors hw hh]
    split <;> rfl

end View

/-! ## Fitted frames -/

/-- `g` is `f` with a square picture of the canvas that `shown` has painted. Each target position
has the index of the one colour that it is sampled from; all else is that of `f`. -/
structure Frame.Shows (sampling : Nat → Nat → Option (Nat × Nat)) (size : Nat)
    (shown : List Frame) (f g : Frame) : Prop where
  kept : g = { f with image := g.image, left := 0, top := 0 }
  width : g.image.width = size
  height : g.image.height = size
  index : ∀ x y, x < size → y < size → ∃ i, g.image.get? x y = some i ∧
    quantize (Raster.filled 1 1 (sampled sampling shown x y)) f.palette f.transparency =
      .ok (Raster.filled 1 1 i)

namespace Frame

variable {sampling : Nat → Nat → Option (Nat × Nat)} {size : Nat} {shown : List Frame}
  {f g g' : Frame}

/-- A fitted frame is known once the frames up to it are. -/
theorem Shows.unique (h : f.Shows sampling size shown g) (h' : f.Shows sampling size shown g') :
    g = g' := by
  have himage : g.image = g'.image := by
    refine Raster.ext_get? (h.width.trans h'.width.symm) (h.height.trans h'.height.symm)
      fun x y hx hy => ?_
    rw [h.width] at hx
    rw [h.height] at hy
    obtain ⟨i, hi, hquantized⟩ := h.index x y hx hy
    obtain ⟨j, hj, hquantized'⟩ := h'.index x y hx hy
    rw [hquantized] at hquantized'
    have hcell : (Raster.filled 1 1 i).get? 0 0 = (Raster.filled 1 1 j).get? 0 0 := by
      rw [Except.ok.inj hquantized']
    rw [Raster.get?_filled (by decide) (by decide), Raster.get?_filled (by decide) (by decide)]
      at hcell
    rw [hi, hj, hcell]
  rw [h.kept, h'.kept, himage]

theorem exists_shows {width height : Nat} (hother : ¬ (width = size ∧ height = size))
    (shown : List Frame) (h : f.Paintable) :
    ∃ image, quantize (view width height size shown) f.palette f.transparency = .ok image ∧
      f.Shows (Raster.sampling width height size) size shown
        { f with image := image, left := 0, top := 0 } := by
  obtain ⟨n, hn⟩ := h.palette
  obtain ⟨index, hindex⟩ := quantize_pixelwise hn f.transparency
  obtain ⟨hw, hh⟩ := size_view hother shown
  refine ⟨_, hindex _, rfl, hw, hh, fun x y hx hy => ?_⟩
  refine ⟨index (sampled (Raster.sampling width height size) shown x y), ?_, ?_⟩
  · rw [Raster.get?_map, get?_view hother hx hy, Option.map_some]
  · rw [hindex, Raster.map_filled]

end Frame

/-- Frame by frame, what fitting makes of a sequence that continues `shown`. -/
inductive FramesShow (sampling : Nat → Nat → Option (Nat × Nat)) (size : Nat) :
    List Frame → List Frame → List Frame → Prop where
  | nil {shown : List Frame} : FramesShow sampling size shown [] []
  | cons {shown frames fitted : List Frame} {f g : Frame} :
    f.Shows sampling size (shown ++ [f]) g → FramesShow sampling size (shown ++ [f]) frames fitted →
      FramesShow sampling size shown (f :: frames) (g :: fitted)

/-- Fitting one frame after the other keeps the view of the canvas. -/
theorem exists_fitFrames_show {width height size : Nat}
    (hother : ¬ (width = size ∧ height = size)) {frames : List Frame}
    (h : ∀ f ∈ frames, f.Paintable) (shown : List Frame) :
    ∃ fitted,
      fitFrames (Raster.sampleMap width height size) (view width height size shown) frames =
        .ok fitted ∧
      FramesShow (Raster.sampling width height size) size shown frames fitted := by
  induction frames generalizing shown with
  | nil => exact ⟨[], rfl, .nil⟩
  | cons f frames ih =>
    have hf := h f (by simp)
    obtain ⟨colors, hcolors, hw, hh⟩ := hf.exists_colors
    -- the accumulator stays the view of a canvas, now with `f` on it
    have hpaint := paint_canvas hother shown hcolors hw hh
    obtain ⟨image, himage, hshows⟩ := Frame.exists_shows hother (shown ++ [f]) hf
    obtain ⟨fitted, hfitted, hrest⟩ :=
      ih (fun g hg => h g (List.mem_cons_of_mem _ hg)) (shown ++ [f])
    refine ⟨{ f with image := image, left := 0, top := 0 } :: fitted, ?_, .cons hshows hrest⟩
    simp only [fitFrames, hcolors, hpaint, himage, hfitted]

namespace FramesShow

variable {sampling : Nat → Nat → Option (Nat × Nat)} {size : Nat}
  {shown frames frames' fitted fitted' : List Frame}

theorem length_eq (h : FramesShow sampling size shown frames fitted) :
    fitted.length = frames.length := by
  induction h with
  | nil => rfl
  | cons _ _ ih => rw [List.length_cons, List.length_cons, ih]

/-- Each frame shows what the frames up to it have painted. -/
theorem shows_getElem (h : FramesShow sampling size shown frames fitted) {i : Nat} {f g : Frame}
    (hf : frames[i]? = some f) (hg : fitted[i]? = some g) :
    f.Shows sampling size (shown ++ frames.take (i + 1)) g := by
  induction h generalizing i with
  | nil => cases hf
  | cons hshows _ ih =>
    cases i with
    | zero =>
      cases hf
      cases hg
      exact hshows
    | succ i =>
      have hi := ih hf hg
      rwa [List.append_assoc] at hi

/-- The first frames do not depend on those after them. -/
theorem take_eq (h : FramesShow sampling size shown frames fitted)
    (h' : FramesShow sampling size shown frames' fitted') {n : Nat}
    (htake : frames.take n = frames'.take n) : fitted.take n = fitted'.take n := by
  induction h generalizing frames' fitted' n with
  | nil =>
    cases h' with
    | nil => rfl
    | cons _ _ =>
      cases n with
      | zero => rfl
      | succ n => cases htake
  | cons hshows _ ih =>
    cases n with
    | zero => rfl
    | succ n =>
      cases h' with
      | nil => cases htake
      | cons hshows' hrest' =>
        obtain ⟨rfl, htail⟩ := List.cons.inj htake
        rw [List.take_succ_cons, List.take_succ_cons, hshows.unique hshows', ih hrest' htail]

end FramesShow

namespace Animation

/-- An animation on a canvas of that size, the frames of which can be painted. -/
structure PaintedOn (width height : Int) (a : Animation) : Prop where
  width : a.width = width
  height : a.height = height
  each : ∀ f ∈ a.frames, f.Paintable

/-- Fitting to a square of another size goes through the frames, from the empty canvas on. -/
theorem exists_fit_show {width height size : Int} (hw : 0 ≤ width) (hh : 0 ≤ height)
    (hsize : 0 < size) (hother : ¬ (width = size ∧ height = size)) {a : Animation}
    (h : a.PaintedOn width height) :
    ∃ frames, a.fit size = .ok { a with width := size, height := size, frames := frames } ∧
      FramesShow (Raster.sampling width.toNat height.toNat size.toNat) size.toNat [] a.frames
        frames := by
  obtain ⟨rfl, rfl, heach⟩ := h
  have hother' : ¬ (a.width.toNat = size.toNat ∧ a.height.toNat = size.toNat) := by omega
  obtain ⟨frames, hframes, hshow⟩ := exists_fitFrames_show hother' heach []
  refine ⟨frames, ?_, hshow⟩
  unfold fit
  rw [if_neg hother, if_neg (by omega)]
  split
  · rename_i hempty
    have hnil : a.frames = [] := List.isEmpty_iff.1 hempty
    rw [hnil] at hshow
    cases hshow
    rw [← hnil]
  · rw [if_neg (by omega), filled_clear hother']
    simp only [hframes]

/-- **A fitted frame shows the canvas of the frames up to it.** For a canvas that does not have the
wanted size already there is one sampling of canvas positions, whatever the frames are and wherever
they lie: fitting succeeds, and the picture of every frame has at each position the index of the one
colour that is sampled there from the canvas, on which the last covering frame wins. All else is
kept, and frames that come later make no difference. -/
theorem fit_shows_canvas {width height size : Int} (hw : 0 < width) (hh : 0 < height)
    (hsize : 0 < size) (hother : ¬ (width = size ∧ height = size)) :
    (∀ x y sx sy, Raster.sampling width.toNat height.toNat size.toNat x y = some (sx, sy) →
      sx < width ∧ sy < height) ∧
    (∀ a : Animation, a.PaintedOn width height →
      ∃ frames, a.fit size = .ok { a with width := size, height := size, frames := frames } ∧
        frames.length = a.frames.length ∧
        ∀ (i : Nat) (f g : Frame), a.frames[i]? = some f → frames[i]? = some g →
          f.Shows (Raster.sampling width.toNat height.toNat size.toNat) size.toNat
            (a.frames.take (i + 1)) g) ∧
    (∀ (a b a' b' : Animation) (n : Nat), a.PaintedOn width height → b.PaintedOn width height →
      a.frames.take n = b.frames.take n → a.fit size = .ok a' → b.fit size = .ok b' →
        a'.frames.take n = b'.frames.take n) := by
  have hw' := Int.le_of_lt hw
  have hh' := Int.le_of_lt hh
  refine ⟨?_, ?_, ?_⟩
  · intro x y sx sy h
    obtain ⟨hx, hy⟩ := Raster.sampling_inside h
    omega
  · intro a ha
    obtain ⟨frames, hfit, hshow⟩ := exists_fit_show hw' hh' hsize hother ha
    exact ⟨frames, hfit, hshow.length_eq, fun i f g hf hg => hshow.shows_getElem hf hg⟩
  · intro a b a' b' n ha hb htake hfit hfit'
    obtain ⟨frames, hframes, hshow⟩ := exists_fit_show hw' hh' hsize hother ha
    obtain ⟨frames', hframes', hshow'⟩ := exists_fit_show hw' hh' hsize hother hb
    rw [hframes] at hfit
    rw [hframes'] at hfit'
    cases hfit
    cases hfit'
    exact hshow.take_eq hshow' htake

/-- The hypotheses of `fit_shows_canvas` hold of a canvas, a size and an animation, and so does its
conclusion. The upper left corner is taken from the middle of the three pixels, which is transparent in
both frames. -/
theorem blink_fit_shows_canvas :
    blink.PaintedOn 3 1 ∧ Raster.sampling 3 1 2 0 0 = some (1, 0) ∧
      ∃ frames, blink.fit 2 = .ok { blink with width := 2, height := 2, frames := frames } ∧
        frames.length = 2 ∧
        (∀ (i : Nat) (f g : Frame), blink.frames[i]? = some f → frames[i]? = some g →
          f.Shows (Raster.sampling 3 1 2) 2 (blink.frames.take (i + 1)) g) ∧
        frames.map (fun g => g.image.get? 0 0) = [some 1, some 1] := by
  have h : blink.PaintedOn 3 1 := by
    refine ⟨rfl, rfl, fun f hf => ?_⟩
    simp only [blink, List.mem_cons, List.not_mem_nil, or_false, or_self] at hf
    subst hf
    refine ⟨⟨2, by decide, by decide, rfl⟩, ?_⟩
    intro t ht
    cases ht
    decide
  obtain ⟨-, hfit, -⟩ :=
    fit_shows_canvas (by decide : (0 : Int) < 3) (by decide : (0 : Int) < 1)
      (by decide : (0 : Int) < 2) (by decide)
  obtain ⟨frames, hframes, hlength, hshows⟩ := hfit blink h
  refine ⟨h, by decide +kernel, frames, hframes, hlength, hshows, ?_⟩
  have hcorner : (blink.fit 2).map (fun a => a.frames.map fun g => g.image.get? 0 0) =
      .ok [some 1, some 1] := by decide +kernel
  rw [hframes] at hcorner
  exact Except.ok.inj hcorner

end Animation

end Gif

end Portrait
