import Portrait.Raster.Pixel

/-!
# Written pictures

An opaque picture is written as a JPEG, any other as a PNG, so that no opacity is lost. A written
PNG is known by its pixels, a written JPEG by its size and quantisation tables. Those are the standard
ones for luminance and chrominance, scaled by the quality: below 50 the scale is inversely proportional
to it, from 50 on it falls linearly.

* `Jpeg.tables` — the quantisation tables of a quality.
* `Picture.isOpaque` — has the picture no pixel that lets anything through?
* `Picture.encode` — the file that is written.
-/

namespace Portrait

/-! ## Quantisation tables -/

namespace Jpeg

/-- The standard table for luminance, row by row. -/
def standardLuminance : List Nat :=
  [16, 11, 10, 16, 24, 40, 51, 61, 12, 12, 14, 19, 26, 58, 60, 55, 14, 13, 16, 24, 40, 57, 69, 56,
    14, 17, 22, 29, 51, 87, 80, 62, 18, 22, 37, 56, 68, 109, 103, 77, 24, 35, 55, 64, 81, 104, 113,
    92, 49, 64, 78, 87, 103, 121, 120, 101, 72, 92, 95, 98, 112, 100, 103, 99]

/-- The standard table for chrominance, row by row. -/
def standardChrominance : List Nat :=
  [17, 18, 24, 47, 99, 99, 99, 99, 18, 21, 26, 66, 99, 99, 99, 99, 24, 26, 56, 99, 99, 99, 99, 99,
    47, 66, 99, 99, 99, 99, 99, 99] ++ List.replicate 32 99

/-- The quality that is used when none is asked for. -/
def defaultQuality : Nat := 75

/-- The scale of the standard tables, in percent. A quality of -1 asks for the default. -/
def tableScale (quality : Int) : Nat :=
  let q := if quality = -1 then defaultQuality else (min (max quality 1) 100).toNat
  if q < 50 then 5000 / q else 200 - 2 * q

/-- A table scaled for a quality; its entries are bytes other than zero. -/
def scaleTable (quality : Int) (table : List Nat) : List Nat :=
  table.map fun t => min (max ((t * tableScale quality + 50) / 100) 1) 255

/-- The tables of a picture in colours. -/
def tables (quality : Int) : List (List Nat) :=
  [scaleTable quality standardLuminance, scaleTable quality standardChrominance]

end Jpeg

/-! ## Files -/

/-- A written file. -/
inductive Encoded where
  | jpeg (width height : Nat) (tables : List (List Nat))
  | png (picture : Picture)

/-- The end of the names of such files. -/
def Encoded.extension : Encoded → String
  | .jpeg .. => "jpg"
  | .png _ => "png"

namespace Picture

/-- The opacities of all pixels, none if the picture is without opacity. -/
def opacities : Picture → List UInt8
  | rgba r => (r.cells.map Rgba.a).toList
  | grayA r => (r.cells.map GrayA.a).toList
  | _ => []

/-- Is every pixel fully opaque? -/
def isOpaque (p : Picture) : Bool := p.opacities.all (· = 255)

/-- The file that is written for a picture. -/
def encode (p : Picture) (quality : Int) : Encoded :=
  if p.isOpaque then .jpeg p.width p.height (Jpeg.tables quality) else .png p

end Picture

end Portrait
