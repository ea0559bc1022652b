import Mathlib.Algebra.Ring.Int.Defs
import Portrait.Proofs.Still.Orientation
import Portrait.Still.Encoded
import Portrait.Still.Probe

/-!
# Opacity survives preparing

A prepared picture is written as a JPEG, which has no opacity, if nothing in it lets anything
through, and otherwise as a PNG. So it matters that resampling an opaque picture gives an opaque
one: two passes with rounded weights, some of them negative, have to leave a channel that is 255
everywhere at 255. They do if the weights of every target coordinate add up to one, with little
error. That they do so is a matter of the floating point numbers they come from, and is assumed.

* `Axis.Balanced` — the weights of every target coordinate add up to one, nearly.
* `Taps.apply_full` — such weights take nothing away from a full channel.
* `passX_full`, `passY_full`, `resample_full` — nor do the passes, one after the other.
* `size_fillCubicRgba` — a filled square is one.
* `Opaque` — a picture that lets nothing through; `opaque_turn_iff` and `Opaque.fillCubicRgba` say
  that turning and filling a square keep it so.
* `extension_encode_iff` — which file is written.

Main statement: `prepare_opacity`.
-/

set_option autoImplicit false

namespace Portrait

namespace Raster

/-! ## Weights -/

/-- How far the weights of a target coordinate may miss one, in units of their last bit. -/
def weightSlack : Nat := 8192

/-- The weights of each of `size` target coordinates add up to one, up to the slack. -/
def Axis.Balanced (a : Axis) (size : Nat) : Prop :=
  ∀ i < size, ((a.taps size i).weights.sum - 1 <<< weightBits).natAbs ≤ weightSlack

/-- Weights are given to pixels of the source only. -/
theorem taps_inside (a : Axis) (size i : Nat) {k : Nat} (hk : k < (a.taps size i).weights.length) :
    (a.taps size i).first + k < a.source := by
  have hspan (start stop : Nat) : (span start stop).length = stop - start := List.length_range'
  have hlength (ws : List Float) (p : Prop) [Decidable p] (f : Float → Float) :
      (if p then ws else ws.map f).length = ws.length := by
    split
    · rfl
    · exact List.length_map f
  simp only [Axis.taps, List.length_map, hlength, hspan] at hk ⊢
  omega

/-- Equal cells weigh as much as their weights together. -/
theorem weighted_const {cell : Nat → UInt8} {c : UInt8} {ws : List Int} {i : Nat} (sum : Int)
    (h : ∀ k < ws.length, cell (i + k) = c) :
    weighted cell ws i sum = sum + ws.sum * c.toNat := by
  induction ws generalizing i sum with
  | nil => simp [weighted]
  | cons w ws ih =>
    have hhead : cell i = c := h 0 (by simp)
    have htail : ∀ k < ws.length, cell (i + 1 + k) = c := fun k hk => by
      rw [Nat.add_right_comm]
      exact h (k + 1) (by simpa using hk)
    rw [weighted, ih _ htail, hhead, List.sum_cons, Int.add_mul, Int.ofNat_eq_natCast]
    omega

/-- **Rounding makes up for the slack**: 255 times its bound is less than half of a unit. -/
theorem clipByte_full {sum : Int} (h : (sum - 1 <<< weightBits).natAbs ≤ weightSlack) :
    clipByte ((1 <<< (weightBits - 1) + sum * 255) >>> weightBits) = 255 := by
  have hshift : (1 <<< (weightBits - 1) + sum * 255) >>> weightBits = 255 := by
    simp only [weightBits, weightSlack, Int.shiftRight_eq_div_pow] at *
    omega
  rw [hshift]
  rfl

theorem Taps.apply_full {t : Taps} {cell : Nat → UInt8}
    (h : (t.weights.sum - 1 <<< weightBits).natAbs ≤ weightSlack)
    (hcell : ∀ k < t.weights.length, cell (t.first + k) = 255) : t.apply cell = 255 := by
  unfold apply
  rw [weighted_const _ hcell]
  exact clipByte_full h

/-! ## Passes -/

section Passes

variable {a : Axis} {size : Nat}

theorem source_centred (side other : Nat) : (Axis.centred side other).source = side := by
  unfold Axis.centred
  split <;> rfl

/-- A side that goes over as it is has the size of the target. -/
theorem source_of_isWhole (h : a.isWhole size = true) : a.source = size := by
  simp only [Axis.isWhole, Bool.and_eq_true, beq_iff_eq] at h
  exact h.1.1

theorem getD_allTaps {i : Nat} (hi : i < size) (d : Taps) :
    (a.allTaps size).getD i d = a.taps size i := by
  simp [Axis.allTaps, Array.getD_eq_getD_getElem?, hi]

theorem getD_cells_filled {c d : UInt8} {width height i : Nat} (hi : i < width * height) :
    (filled width height c).cells.getD i d = c := by
  simp [filled, Array.getD_eq_getD_getElem?, hi]

theorem ofFn_eq_filled {w h : Nat} {f : Nat → Nat → UInt8} {c : UInt8}
    (hf : ∀ x y, x < w → y < h → f x y = c) : ofFn w h f = filled w h c := by
  refine ext_get? rfl rfl fun x y (hx : x < w) (hy : y < h) => ?_
  rw [get?_ofFn hx hy, get?_filled hx hy, hf x y hx hy]

theorem passX_full (ha : a.Balanced size) (height : Nat) :
    passX a size (filled a.source height 255) = filled size height 255 := by
  unfold passX
  split
  · rename_i hwhole
    rw [source_of_isWhole hwhole]
  · refine ofFn_eq_filled fun x y hx hy => ?_
    rw [getD_allTaps hx]
    refine Taps.apply_full (ha x hx) fun k hk => getD_cells_filled ?_
    exact index_lt (taps_inside a size x hk) hy

theorem passY_full (ha : a.Balanced size) (width : Nat) :
    passY a size (filled width a.source 255) = filled width size 255 := by
  unfold passY
  split
  · rename_i hwhole
    rw [source_of_isWhole hwhole]
  · refine ofFn_eq_filled fun x y hx hy => ?_
    rw [getD_allTaps hy]
    refine Taps.apply_full (ha y hy) fun k hk => getD_cells_filled ?_
    exact index_lt hx (taps_inside a size y hk)

/-- **A full channel stays full**, whichever pass comes first. -/
theorem resample_full {width height : Nat} (hx : (Axis.centred width height).Balanced size)
    (hy : (Axis.centred height width).Balanced size) :
    resample (filled width height 255) size = filled size size 255 := by
  have hpassX := passX_full hx
  have hpassY := passY_full hy
  rw [source_centred] at hpassX hpassY
  unfold resample
  split
  · exact (congrArg _ (hpassY width)).trans (hpassX size)
  · exact (congrArg _ (hpassX height)).trans (hpassY size)

end Passes

/-! ## Sizes -/

section Sizes

variable {a : Axis} {channel : Raster UInt8}

theorem size_passX (size : Nat) (h : a.source = channel.width) :
    (passX a size channel).width = size ∧ (passX a size channel).height = channel.height := by
  unfold passX
  split
  · rename_i hwhole
    exact ⟨h.symm.trans (source_of_isWhole hwhole), rfl⟩
  · exact ⟨rfl, rfl⟩

theorem size_passY (size : Nat) (h : a.source = channel.height) :
    (passY a size channel).width = channel.width ∧ (passY a size channel).height = size := by
  unfold passY
  split
  · rename_i hwhole
    exact ⟨rfl, h.symm.trans (source_of_isWhole hwhole)⟩
  · exact ⟨rfl, rfl⟩

/-- Both passes together give a square. -/
theorem size_resample (channel : Raster UInt8) (size : Nat) :
    (resample channel size).width = size ∧ (resample channel size).height = size := by
  have hx := source_centred channel.width channel.height
  have hy := source_centred channel.height channel.width
  unfold resample
  split
  · obtain ⟨hw, hh⟩ := size_passY size hy
    obtain ⟨hw', hh'⟩ := size_passX size (hx.trans hw.symm)
    exact ⟨hw', hh'.trans hh⟩
  · obtain ⟨hw, hh⟩ := size_passX size hx
    obtain ⟨hw', hh'⟩ := size_passY size (hy.trans hh.symm)
    exact ⟨hw'.trans hw, hh'⟩

/-- A filled square is one, whatever it is filled from. -/
theorem size_fillCubicRgba (r : Raster Rgba) (size : Nat) :
    (r.fillCubicRgba size).width = size ∧ (r.fillCubicRgba size).height = size := by
  unfold Raster.fillCubicRgba
  split
  · assumption
  split
  · exact ⟨rfl, rfl⟩
  · exact size_resample (r.map Rgba.a) size

end Sizes

/-! ## Opaque pictures -/

/-- Nothing in the picture lets anything through. -/
def Opaque (r : Raster Rgba) : Prop := ∀ x y p, r.get? x y = some p → p.a = 255

variable {r : Raster Rgba}

theorem inside_of_get? {x y : Nat} {p : Rgba} (h : r.get? x y = some p) :
    x < r.width ∧ y < r.height := by
  by_contra hout
  rw [get?_eq_none hout] at h
  cases h

theorem Opaque.upright (h : r.Opaque) (o : Nat) : (r.upright o).Opaque := by
  intro x y p hp
  obtain ⟨hx, hy⟩ := inside_of_get? hp
  rw [get?_upright r hx hy] at hp
  exact h _ _ p hp

theorem Opaque.stored (h : r.Opaque) (o : Nat) : (r.stored o).Opaque := by
  intro x y p hp
  obtain ⟨hx, hy⟩ := inside_of_get? hp
  rw [get?_stored r hx hy] at hp
  exact h _ _ p hp

/-- Turning moves pixels, and no pixel is lost by it. -/
theorem opaque_turn_iff (tag : Except StillError Nat) : (turn r tag).Opaque ↔ r.Opaque := by
  cases tag with
  | error e => rfl
  | ok o =>
    refine ⟨fun h => ?_, fun h => h.upright o⟩
    rw [← stored_upright r o]
    exact h.stored o

theorem opaque_iff_map_a : r.Opaque ↔ r.map Rgba.a = filled r.width r.height 255 := by
  constructor
  · intro h
    refine ext_get? rfl rfl fun x y (hx : x < r.width) (hy : y < r.height) => ?_
    have hcell := get?_eq_some_cell r hx hy
    rw [get?_map, hcell, get?_filled hx hy, Option.map_some, h x y _ hcell]
  · intro h x y p hp
    obtain ⟨hx, hy⟩ := inside_of_get? hp
    have hpixel := congrArg (·.get? x y) h
    simp only [get?_map, hp, get?_filled hx hy, Option.map_some, Option.some.injEq] at hpixel
    exact hpixel

/-- The opacities of channels that are put together are those of the last. -/
theorem map_a_ofChannels (red green blue alpha : Raster UInt8) :
    (ofChannels red green blue alpha).map Rgba.a = alpha := by
  refine ext_get? rfl rfl fun x y (hx : x < alpha.width) (hy : y < alpha.height) => ?_
  rw [get?_map, ofChannels, get?_ofFn hx hy, get?_eq_some_getD hx hy 0, Option.map_some]

/-- The weights of both sides of a picture add up to one, nearly. -/
structure Balanced (r : Raster Rgba) (size : Nat) : Prop where
  columns : (Axis.centred r.width r.height).Balanced size
  rows : (Axis.centred r.height r.width).Balanced size

/-- **Filling a square keeps a picture opaque.** -/
theorem Opaque.fillCubicRgba {size : Nat} (h : r.Opaque) (hheight : 0 < r.height)
    (hweights : r.Balanced size) : (r.fillCubicRgba size).Opaque := by
  have halpha : resample (r.map Rgba.a) size = filled size size 255 := by
    rw [opaque_iff_map_a.1 h]
    exact resample_full hweights.columns hweights.rows
  have hchannels (red green blue : Raster UInt8) :
      (ofChannels red green blue (resample (r.map Rgba.a) size)).Opaque := by
    rw [halpha, opaque_iff_map_a, map_a_ofChannels]
    rfl
  unfold Raster.fillCubicRgba
  split
  · exact h
  rw [if_neg (Nat.ne_of_gt hheight)]
  -- dividing the colours by the opacity again leaves the opacity alone
  intro x y p hp
  rw [get?_map] at hp
  obtain ⟨q, hq, rfl⟩ := Option.map_eq_some_iff.1 hp
  exact hchannels _ _ _ x y q hq

/-- A picture that has the size of the square already is not touched. -/
theorem fillCubicRgba_of_square {size : Nat} (hwidth : r.width = size) (hheight : r.height = size) :
    r.fillCubicRgba size = r :=
  if_pos ⟨hwidth, hheight⟩

end Raster

/-! ## Files -/

theorem isOpaque_iff {r : Raster Rgba} : (Picture.rgba r).isOpaque = true ↔ r.Opaque := by
  unfold Picture.isOpaque Picture.opacities
  rw [List.all_eq_true]
  constructor
  · intro h x y p hp
    have hmem : p.a ∈ (r.cells.map Rgba.a).toList :=
      Array.mem_toList_iff.2 (Array.mem_map_of_mem (Raster.mem_cells_iff.2 ⟨x, y, hp⟩))
    exact of_decide_eq_true (h p.a hmem)
  · intro h a ha
    obtain ⟨p, hp, rfl⟩ := Array.mem_map.1 (Array.mem_toList_iff.1 ha)
    obtain ⟨x, y, hpixel⟩ := Raster.mem_cells_iff.1 hp
    exact decide_eq_true (h x y p hpixel)

/-- A picture that lets something through is written with all its pixels. -/
theorem encode_png {r : Raster Rgba} (h : ¬ r.Opaque) (quality : Int) :
    (Picture.rgba r).encode quality = .png (.rgba r) :=
  if_neg fun hfull => h (isOpaque_iff.1 hfull)

theorem extension_encode_iff {r : Raster Rgba} (quality : Int) :
    ((Picture.rgba r).encode quality).extension = "jpg" ↔ r.Opaque := by
  by_cases h : r.Opaque
  · have hjpeg : (Picture.rgba r).encode quality = .jpeg r.width r.height (Jpeg.tables quality) :=
      if_pos (isOpaque_iff.2 h)
    rw [hjpeg]
    exact iff_of_true rfl h
  · rw [encode_png h]
    refine iff_of_false ?_ h
    simp [Encoded.extension]

section Prepare

variable {bs : Bytes} {s : Still} {source up : Raster Rgba} {tag : Except StillError Nat}
  {size : Int}

/-- **Opacity survives preparing, and decides about the file that is written.** What is prepared is a
square of the wanted size. If the weights of the upright picture `up` are balanced, an opaque source is
prepared as an opaque picture. A JPEG is written for opaque pictures and for no others; one that lets
something through is written with all its pixels. An upright picture that is such a square already is
not touched. -/
theorem prepare_opacity (format : Option Format) (quality : Int) (hopen : Still.open bs = .ok s)
    (hload : s.load = .ok (source, tag)) (hturn : turn source (heededTag format tag) = up)
    (hheight : 0 < up.height) (hsize : 0 ≤ size) :
    ∃ r, prepare bs format size = .ok r ∧ r.width = size ∧ r.height = size ∧
      (up.Balanced size.toNat → source.Opaque →
        r.Opaque ∧ ((Picture.rgba r).encode quality).extension = "jpg") ∧
      (((Picture.rgba r).encode quality).extension = "jpg" ↔ r.Opaque) ∧
      (¬ r.Opaque → (Picture.rgba r).encode quality = .png (.rgba r)) ∧
      (up.width = size → up.height = size →
        r = up ∧ (((Picture.rgba r).encode quality).extension = "jpg" ↔ source.Opaque)) := by
  have hfull : up.Opaque ↔ source.Opaque := hturn ▸ Raster.opaque_turn_iff _
  obtain ⟨hwidth, hside⟩ := Raster.size_fillCubicRgba up size.toNat
  refine ⟨up.fillCubicRgba size.toNat, ?_, by omega, by omega, fun hweights hsource => ?_,
    extension_encode_iff quality, fun h => encode_png h quality, fun hw hh => ?_⟩
  · rw [prepare_of_load hopen hload, hturn]
    exact if_neg (Int.not_lt.2 hsize)
  · have hfilled := (hfull.2 hsource).fillCubicRgba hheight hweights
    exact ⟨hfilled, (extension_encode_iff quality).2 hfilled⟩
  · rw [Raster.fillCubicRgba_of_square (by omega) (by omega), extension_encode_iff, hfull]
    exact ⟨rfl, Iff.rfl⟩

end Prepare

/-! ## Bitmaps -/

/-- A bitmap of black and white with all its rows is a picture, and an opaque one. -/
theorem Bmp.File.exists_load {f : Bmp.File} (hentries : f.entries ≤ 256) (hcoding : f.coding = .plain)
    (hlayout : f.layout = .bilevel) (hstride : (f.width + 7) / 8 ≤ f.stride)
    (hdata : (f.height - 1) * f.stride + (f.width + 7) / 8 ≤ (f.data.drop f.offset).length) :
    ∃ r, f.load = .ok r ∧ r.width = f.width ∧ r.height = f.height ∧ r.Opaque := by
  rw [load, if_neg (Nat.not_lt.2 hentries), hcoding]
  have hbits : f.width * f.layout.bits = f.width := by
    rw [hlayout]
    exact Nat.mul_one f.width
  refine ⟨_, if_neg ?_, rfl, rfl, ?_⟩
  · rw [hbits, List.size_toArray]
    omega
  · intro x y p hp
    obtain ⟨hx, hy⟩ := Raster.inside_of_get? hp
    have hx' : x < f.width := hx
    have hy' : y < f.height := hy
    rw [Raster.get?_ofFn hx' hy'] at hp
    cases hp
    simp only [color, hlayout]

/-- A black bitmap of fifty by fifty pixels. -/
def blackFile : Bytes :=
  [0x42, 0x4D, 0xCE, 1, 0, 0, 0, 0, 0, 0, 62, 0, 0, 0] ++
    [40, 0, 0, 0, 50, 0, 0, 0, 50, 0, 0, 0, 1, 0, 1, 0, 0, 0, 0, 0, 0x90, 1, 0, 0, 0, 0, 0, 0,
      0, 0, 0, 0, 2, 0, 0, 0, 0, 0, 0, 0] ++
    [0, 0, 0, 0, 255, 255, 255, 0] ++ List.replicate 400 0

/-- The bitmap as it is opened. -/
def blackBitmap : Bmp.File :=
  { width := 50
    height := 50
    topDown := false
    coding := .plain
    layout := .bilevel
    palette := []
    entries := 0
    stride := 8
    offset := 62
    data := blackFile }

/-- A picture that passes the gate, shrunk to a single pixel. -/
theorem black_prepare_opacity :
    probe blackFile 50 2000 = .ok ⟨.bmp, 50, 50⟩ ∧
      ∃ source r, (Still.bmp blackBitmap).load = .ok (source, .ok 0) ∧ source.Balanced 1 ∧
        source.Opaque ∧ prepare blackFile (some .bmp) 1 = .ok r ∧ r.width = 1 ∧ r.height = 1 ∧
        r.Opaque ∧ ((Picture.rgba r).encode 90).extension = "jpg" := by
  have hopen : Still.open blackFile = .ok (.bmp blackBitmap) := by rfl
  have hside : (Raster.Axis.centred 50 50).Balanced 1 := by
    unfold Raster.Axis.Balanced
    decide +kernel
  obtain ⟨source, hplain, hwidth, hheight, hsource⟩ :=
    Bmp.File.exists_load (f := blackBitmap) (by decide) rfl rfl (by decide) (by decide +kernel)
  have hbalanced : source.Balanced 1 := by
    constructor
    all_goals
      rw [hwidth, hheight]
      exact hside
  have hload : (Still.bmp blackBitmap).load = .ok (source, .ok 0) := by
    rw [Still.load, hplain]
    rfl
  obtain ⟨r, hprepare, hw, hh, hkept, -⟩ := prepare_opacity (some .bmp) 90 hopen hload rfl
    (hheight ▸ (by decide : 0 < 50)) (show (0 : Int) ≤ 1 by decide)
  obtain ⟨hr, hjpg⟩ := hkept hbalanced hsource
  refine ⟨?_, source, r, hload, hbalanced, hsource, hprepare, by omega, by omega, hr, hjpg⟩
  rw [probe, hopen]
  rfl

end Portrait
