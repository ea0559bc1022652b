import Portrait.Gif.Animation
import Portrait.Gif.Quantize
import Portrait.Raster.Sample

/-!
# Animations that fill a square

Frames are painted onto one canvas, in order and without clearing it between them; the canvas is
then sampled with nearest pixels and mapped back onto the palette of the frame. Disposal methods
are not applied.

The canvas is only ever looked at through `Raster.sampleMap`, so what is kept from frame to frame is
the canvas as the target square shows it: `paint` updates the target positions whose source
position the frame covers.

* `Animation.fit` — the animation on a `size` by `size` canvas.
* `transcode` — decode and fit.
-/

namespace Portrait.Gif

/-- The pixel of a frame at a canvas position, `none` where the frame does not reach. -/
def coveredPixel (colors : Raster Rgba) (left top : Int) (x y : Nat) : Option Rgba :=
  let fx := (x : Int) - left
  let fy := (y : Int) - top
  if 0 ≤ fx ∧ 0 ≤ fy then colors.get? fx.toNat fy.toNat else none

/-- The view of the canvas after one more frame has been painted, fully transparent pixels
included. -/
def paint (samples : Raster (Option (Nat × Nat))) (view : Raster Rgba) (colors : Raster Rgba)
    (left top : Int) : Raster Rgba :=
  Raster.ofFn samples.width samples.height fun x y =>
    let before := view.getD x y Rgba.clear
    match samples.get? x y with
    | some (some (sx, sy)) => (coveredPixel colors left top sx sy).getD before
    | _ => before

/-- The frames as the target square shows them, one after the other. -/
def fitFrames (samples : Raster (Option (Nat × Nat))) (view : Raster Rgba) :
    List Frame → Except Failure (List Frame)
  | [] => .ok []
  | f :: rest =>
    match f.toRgba with
    | .error e => .error e
    | .ok colors =>
      let view := paint samples view colors f.left f.top
      match quantize view f.palette f.transparency with
      | .error e => .error e
      | .ok image =>
        match fitFrames samples view rest with
        | .error e => .error e
        | .ok frames => .ok ({ f with image := image, left := 0, top := 0 } :: frames)

/-- The animation on a `size` by `size` canvas; unchanged if its canvas has that size already. -/
def Animation.fit (a : Animation) (size : Int) : Except Failure Animation :=
  if a.width = size ∧ a.height = size then .ok a
  else if a.width < 0 ∨ a.height < 0 then .error .badArgument
  else if a.frames.isEmpty then .ok { a with width := size, height := size }
  else if size < 0 then .error .badArgument
  else
    let samples := Raster.sampleMap a.width.toNat a.height.toNat size.toNat
    match fitFrames samples (Raster.filled size.toNat size.toNat Rgba.clear) a.frames with
    | .error e => .error e
    | .ok frames => .ok { a with width := size, height := size, frames := frames }

/-- The animation in a byte string, fitted to a `size` by `size` canvas. -/
def Animation.prepare (data : Bytes) (size : Int) : Except Failure Animation :=
  match Animation.decode data with
  | .error e => .error e
  | .ok a => a.fit size

/-- The byte string of an animation after it has been fitted to a `size` by `size` canvas. -/
def transcode (data : Bytes) (size : Int) : Except Failure Bytes :=
  match Animation.prepare data size with
  | .error e => .error e
  | .ok a => a.encode

end Portrait.Gif
