import Portrait.Raster.Cubic
import Portrait.Still.Picture

/-!
# Preparing still pictures

A still picture is decoded to colours with opacity, turned upright, and made to fill a square.

* `upright` — the picture turned upright.
* `prepare` — the square.
-/

namespace Portrait

/-- A square of side `size` filled from an upright picture. -/
def fillSquare (r : Raster Rgba) (size : Int) : Except StillError (Raster Rgba) :=
  if size < 0 then .error .badValue else .ok (Raster.fillCubicRgba r size.toNat)

/-- The orientation tag that is heeded for a container; there is none for most. -/
def heededTag (format : Option Format) (tag : Except StillError Nat) : Except StillError Nat :=
  match format with
  | none => .ok 0
  | some f => if f.hasOrientation then tag else .ok 0

/-- A picture turned as a tag says; one that cannot be read does not matter. -/
def turn (r : Raster Rgba) (tag : Except StillError Nat) : Raster Rgba :=
  match tag with
  | .ok n => r.upright n
  | .error _ => r

/-- A picture turned upright, and the tag that was heeded. -/
def upright (bs : Bytes) (format : Option Format) :
    Except StillError (Raster Rgba × Except StillError Nat) :=
  match Still.open bs with
  | .error e => .error e
  | .ok s =>
    match s.load with
    | .error e => .error e
    | .ok (r, tag) => .ok (turn r (heededTag format tag), heededTag format tag)

/-- A still picture as an upright square. -/
def prepare (bs : Bytes) (format : Option Format) (size : Int) : Except StillError (Raster Rgba) :=
  match upright bs format with
  | .error e => .error e
  | .ok (r, _) => fillSquare r size

end Portrait
