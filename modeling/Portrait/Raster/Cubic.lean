import Portrait.Raster.Pixel
import Portrait.Raster.Sample

/-!
# Cubic resampling

Filling a square by cubic convolution. Both axes are resampled one after the other with integer
weights of 22 fractional bits, and every pass rounds to bytes. Pictures with opacity are resampled
premultiplied, so that the colour of a transparent pixel does not bleed into its neighbours.

* `Taps` — the source pixels that make up one target pixel, and their weights.
* `resample` — both passes over one channel.
* `Picture.fill` — a square filled from a picture in any pixel form.
-/

namespace Portrait.Raster

/-- The cubic kernel with parameter -1/2. -/
def cubicKernel (x : Float) : Float :=
  let x := x.abs
  let a : Float := -0.5
  if x < 1.0 then ((a + 2.0) * x - (a + 3.0)) * x * x + 1.0
  else if x < 2.0 then (((x - 5.0) * x + 8.0) * x - 4.0) * a
  else 0.0

/-- Fractional bits of an integer weight. -/
def weightBits : Nat := 22

/-- A weight as an integer, half away from zero. -/
def fixedWeight (w : Float) : Int :=
  let scaled := w * Float.ofNat (1 <<< weightBits)
  if w < 0.0 then -Int.ofNat (0.5 - scaled).toUInt64.toNat
  else Int.ofNat (0.5 + scaled).toUInt64.toNat

/-- The weights of the source pixels from `first` on. -/
structure Taps where
  first : Nat
  weights : List Int
  deriving Repr

/-- The numbers from `start` on that are below `stop`. -/
def span (start stop : Nat) : List Nat := List.range' start (stop - start)

/-- The taps of target coordinate `i`. -/
def Axis.taps (a : Axis) (size i : Nat) : Taps :=
  let scale := a.scale size
  let stretch := if scale < 1.0 then 1.0 else scale
  let support := 2.0 * stretch
  let centre := a.start + (Float.ofNat i + 0.5) * scale
  let low := centre - support + 0.5
  let first := if low < 0.0 then 0 else low.toUInt64.toNat
  let stop := min (centre + support + 0.5).toUInt64.toNat a.source
  let raw := (span first stop).map fun x =>
    cubicKernel ((Float.ofNat x - centre + 0.5) * (1.0 / stretch))
  let sum := raw.foldl (· + ·) 0.0
  let weights := if sum == 0.0 then raw else raw.map (· * (1.0 / sum))
  ⟨first, weights.map fixedWeight⟩

/-- Adds up weighted cells from coordinate `i` on. -/
def weighted (cell : Nat → UInt8) : List Int → Nat → Int → Int
  | [], _, sum => sum
  | w :: ws, i, sum => weighted cell ws (i + 1) (sum + w * Int.ofNat (cell i).toNat)

/-- A whole number cut to the range of a byte. -/
def clipByte (n : Int) : UInt8 := if n < 0 then 0 else if 255 < n then 255 else UInt8.ofNat n.toNat

/-- The weighted mean of cells, rounded to a byte. -/
def Taps.apply (t : Taps) (cell : Nat → UInt8) : UInt8 :=
  clipByte (weighted cell t.weights t.first (1 <<< (weightBits - 1)) >>> weightBits)

/-- The taps of all target coordinates. -/
def Axis.allTaps (a : Axis) (size : Nat) : Array Taps := ((List.range size).map (a.taps size)).toArray

/-- One channel resampled along its rows. -/
def passX (a : Axis) (size : Nat) (r : Raster UInt8) : Raster UInt8 :=
  if a.isWhole size then r
  else
    let taps := a.allTaps size
    ofFn size r.height fun x y =>
      (taps.getD x ⟨0, []⟩).apply fun i => r.cells.getD (y * r.width + i) 0

/-- One channel resampled along its columns. -/
def passY (a : Axis) (size : Nat) (r : Raster UInt8) : Raster UInt8 :=
  if a.isWhole size then r
  else
    let taps := a.allTaps size
    ofFn r.width size fun x y =>
      (taps.getD y ⟨0, []⟩).apply fun i => r.cells.getD (i * r.width + x) 0

/-- Does the pass over the columns come first? Only for a side that shrinks much more than the
other one. -/
def columnsFirst (width height size : Nat) : Bool :=
  size < height && (2 * ((width : Int) - size) < (height : Int) - size)

/-- One channel resampled to fill a square. -/
def resample (r : Raster UInt8) (size : Nat) : Raster UInt8 :=
  let ax := Axis.centred r.width r.height
  let ay := Axis.centred r.height r.width
  if columnsFirst r.width r.height size then passX ax size (passY ay size r)
  else passY ay size (passX ax size r)

/-- The product `c * a / 255`, rounded. -/
def mulDiv255 (c a : UInt8) : UInt8 :=
  let t := c.toNat * a.toNat + 128
  UInt8.ofNat ((t / 256 + t) / 256)

/-- Undoes `mulDiv255`, as far as rounding allows. -/
def divMul255 (c a : UInt8) : UInt8 :=
  if a = 0 ∨ a = 255 then c else UInt8.ofNat (min 255 (255 * c.toNat / a.toNat))

/-- Four channels put together; they have one size. -/
def ofChannels (r g b a : Raster UInt8) : Raster Rgba :=
  ofFn a.width a.height fun x y => ⟨r.getD x y 0, g.getD x y 0, b.getD x y 0, a.getD x y 0⟩

/-- A square filled from an RGBA picture. -/
def fillCubicRgba (r : Raster Rgba) (size : Nat) : Raster Rgba :=
  if r.width = size ∧ r.height = size then r
  else if r.height = 0 then filled size size Rgba.clear
  else
    let channel (f : Rgba → UInt8) : Raster UInt8 := resample (r.map f) size
    (ofChannels (channel fun p => mulDiv255 p.r p.a) (channel fun p => mulDiv255 p.g p.a)
      (channel fun p => mulDiv255 p.b p.a) (channel Rgba.a)).map
      fun p => ⟨divMul255 p.r p.a, divMul255 p.g p.a, divMul255 p.b p.a, p.a⟩

/-- A square filled from a gray picture. -/
def fillCubicGray (r : Raster UInt8) (size : Nat) : Raster UInt8 :=
  if r.width = size ∧ r.height = size then r
  else if r.height = 0 then filled size size 0
  else resample r size

end Portrait.Raster

namespace Portrait

/-- The two ways to fill a square. -/
inductive Kernel where
  | nearest
  | cubic
  deriving DecidableEq, Repr

open Raster in
/-- A square filled from a picture; palette indices are never mixed. -/
def Picture.fill (p : Picture) (size : Nat) (k : Kernel) : Picture :=
  match p, k with
  | .rgba r, .cubic => .rgba (fillCubicRgba r size)
  | .rgba r, .nearest => .rgba (fillNearest r size Rgba.clear)
  | .gray r, .cubic => .gray (fillCubicGray r size)
  | .gray r, .nearest => .gray (fillNearest r size 0)
  | .grayA r, .cubic =>
    let wide := fillCubicRgba (r.map fun p => ⟨p.l, p.l, p.l, p.a⟩) size
    .grayA (wide.map fun p => ⟨p.r, p.a⟩)
  | .grayA r, .nearest => .grayA (fillNearest r size ⟨0, 0⟩)
  | .rgb r, .cubic =>
    let wide := fillCubicRgba (r.map Rgb.opaqueColor) size
    .rgb (wide.map Rgba.rgb)
  | .rgb r, .nearest => .rgb (fillNearest r size ⟨0, 0, 0⟩)
  | .indexed r, _ => .indexed (fillNearest r size 0)

end Portrait
