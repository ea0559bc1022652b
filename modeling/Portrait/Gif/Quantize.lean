import Portrait.Gif.ColorTable
import Portrait.Gif.Error
import Portrait.Raster.Cubic
import Portrait.Raster.Pixel

/-!
# Quantization to a given palette

Maps pixels onto the entries of an existing palette, without dithering. The transparent entry is no
candidate for an opaque pixel, so no pixel turns into a hole; fully transparent pixels get the
transparent index when there is one.

* `candidates` — the entries that pixels are matched against.
* `matchColor` — the candidate at the smallest squared distance, the first one of several. Colours
  are compared with the low two bits of each channel cleared.
* `quantize` — the whole picture.
-/

namespace Portrait.Gif

/-- A palette entry with its index. -/
structure Candidate where
  index : Nat
  r : Nat
  g : Nat
  b : Nat
  deriving DecidableEq, Repr

/-- The entries of a palette with their indices. -/
def paletteEntries (palette : Bytes) : List Candidate :=
  (ColorTable.triplets palette).zipIdx.map fun ((r, g, b), i) => ⟨i, r.toNat, g.toNat, b.toNat⟩

/-- All entries but the transparent one; all, if none is left. -/
def candidates (palette : Bytes) (transparency : Option Int) : List Candidate :=
  let all := paletteEntries palette
  let visible := all.filter fun c => some (Int.ofNat c.index) ≠ transparency
  if visible = [] then all else visible

/-- A channel with its low two bits cleared. -/
def coarse (c : UInt8) : Nat := c.toNat / 4 * 4

/-- The square of the difference of two channels. -/
def squaredGap (a b : Nat) : Nat := (a - b) * (a - b) + (b - a) * (b - a)

/-- The squared distance of a candidate from a colour. -/
def Candidate.distance (c : Candidate) (r g b : Nat) : Nat :=
  squaredGap c.r r + squaredGap c.g g + squaredGap c.b b

/-- The nearest of `best` and the candidates of a list, the first one of several. -/
def nearestOf (r g b : Nat) (best : Candidate) (bestDistance : Nat) : List Candidate → Candidate
  | [] => best
  | c :: rest =>
    let d := c.distance r g b
    if d < bestDistance then nearestOf r g b c d rest else nearestOf r g b best bestDistance rest

/-- The index of the candidate that a colour is matched with. -/
def matchColor (first : Candidate) (rest : List Candidate) (p : Rgb) : UInt8 :=
  let r := coarse p.r
  let g := coarse p.g
  let b := coarse p.b
  UInt8.ofNat (nearestOf r g b first (first.distance r g b) rest).index

/-- An RGBA picture on a palette of 1 to 256 entries. -/
def quantize (image : Raster Rgba) (palette : Bytes) (transparency : Option Int) :
    Except Failure (Raster UInt8) :=
  if 256 < (ColorTable.triplets palette).length then .error .badArgument
  else
    match candidates palette transparency with
    | [] => .error .badArgument
    | first :: rest =>
      .ok (image.map fun p =>
        match transparency with
        | some t => if p.a = 0 then Raster.clipByte t else matchColor first rest p.rgb
        | none => matchColor first rest p.rgb)

/-- The same for a picture in any pixel form; a transparent index needs a form with opacity. -/
def quantizePicture (image : Picture) (palette : Bytes) (transparency : Option Int) :
    Except Failure (Raster UInt8) :=
  match image with
  | .rgba r => quantize r palette transparency
  | .grayA r => quantize (r.map fun p => ⟨p.l, p.l, p.l, p.a⟩) palette transparency
  | .rgb r =>
    if transparency.isSome then .error .badArgument
    else quantize (r.map Rgb.opaqueColor) palette none
  | .gray r | .indexed r =>
    if transparency.isSome then .error .badArgument
    else quantize (r.map fun l => ⟨l, l, l, 255⟩) palette none

end Portrait.Gif
