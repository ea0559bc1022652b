import Portrait.Raster.Basic

/-!
# Pixels

Colours with opacity, and the pixel forms in which decoded pictures arrive. `Picture` is a picture
in one of these forms; its name (`Picture.mode`) is the usual short name of the form. `StillError`
lists the ways in which a byte string fails to be a picture in a supported container, or in which the
pixels of a recognised one cannot be had.
-/

namespace Portrait

/-- A colour with opacity; `a = 255` is opaque, `a = 0` fully transparent. -/
structure Rgba where
  r : UInt8
  g : UInt8
  b : UInt8
  a : UInt8
  deriving DecidableEq, Repr, Inhabited

/-- A colour without opacity. -/
structure Rgb where
  r : UInt8
  g : UInt8
  b : UInt8
  deriving DecidableEq, Repr, Inhabited

/-- A gray level with opacity. -/
structure GrayA where
  l : UInt8
  a : UInt8
  deriving DecidableEq, Repr, Inhabited

/-- Pictures with more pixels than this are refused. -/
def pixelLimit : Nat := 178956970

/-- The transparent black of an empty canvas. -/
def Rgba.clear : Rgba := ⟨0, 0, 0, 0⟩

def Rgba.toBytes (p : Rgba) : List UInt8 := [p.r, p.g, p.b, p.a]

def Rgba.rgb (p : Rgba) : Rgb := ⟨p.r, p.g, p.b⟩

def Rgb.toBytes (p : Rgb) : List UInt8 := [p.r, p.g, p.b]

def Rgb.opaqueColor (p : Rgb) : Rgba := ⟨p.r, p.g, p.b, 255⟩

def GrayA.toBytes (p : GrayA) : List UInt8 := [p.l, p.a]

/-- A picture in the pixel form in which it was decoded. -/
inductive Picture where
  | rgba (r : Raster Rgba)
  | rgb (r : Raster Rgb)
  | gray (r : Raster UInt8)
  | grayA (r : Raster GrayA)
  | indexed (r : Raster UInt8)

namespace Picture

def width : Picture → Nat
  | rgba r => r.width
  | rgb r => r.width
  | gray r => r.width
  | grayA r => r.width
  | indexed r => r.width

def height : Picture → Nat
  | rgba r => r.height
  | rgb r => r.height
  | gray r => r.height
  | grayA r => r.height
  | indexed r => r.height

/-- The short name of the pixel form. -/
def mode : Picture → String
  | rgba _ => "RGBA"
  | rgb _ => "RGB"
  | gray _ => "L"
  | grayA _ => "LA"
  | indexed _ => "P"

/-- The bytes of the pixel at `(x, y)`, none outside the picture. -/
def pixelBytes (p : Picture) (x y : Nat) : List UInt8 :=
  match p with
  | rgba r => ((r.get? x y).map Rgba.toBytes).getD []
  | rgb r => ((r.get? x y).map Rgb.toBytes).getD []
  | gray r => (r.get? x y).toList
  | grayA r => ((r.get? x y).map GrayA.toBytes).getD []
  | indexed r => (r.get? x y).toList

/-- All bytes of row `y`. -/
def rowBytes (p : Picture) (y : Nat) : List UInt8 :=
  match p with
  | rgba r => (r.row y).flatMap Rgba.toBytes
  | rgb r => (r.row y).flatMap Rgb.toBytes
  | gray r => r.row y
  | grayA r => (r.row y).flatMap GrayA.toBytes
  | indexed r => r.row y

/-- A picture from its mode name and interleaved bytes, when there are exactly enough of them. -/
def ofBytes? (mode : String) (w h : Nat) (bs : Array UInt8) : Option Picture :=
  let at' (i : Nat) : UInt8 := bs.getD i 0
  let sized (k : Nat) : Bool := bs.size == w * h * k
  match mode with
  | "RGBA" =>
    if sized 4 then
      some (rgba (Raster.ofFn w h fun x y =>
        let i := (y * w + x) * 4
        ⟨at' i, at' (i + 1), at' (i + 2), at' (i + 3)⟩))
    else none
  | "RGB" =>
    if sized 3 then
      some (rgb (Raster.ofFn w h fun x y =>
        let i := (y * w + x) * 3
        ⟨at' i, at' (i + 1), at' (i + 2)⟩))
    else none
  | "LA" =>
    if sized 2 then
      some (grayA (Raster.ofFn w h fun x y =>
        let i := (y * w + x) * 2
        ⟨at' i, at' (i + 1)⟩))
    else none
  | "L" => (Raster.ofCells? w h bs).map gray
  | "P" => (Raster.ofCells? w h bs).map indexed
  | _ => none

end Picture

/-- Why a still picture cannot be opened or decoded. -/
inductive StillError where
  /-- No supported container has this header. -/
  | unidentified
  /-- The file ends too early, or its compressed data is damaged. -/
  | broken
  /-- A value in the file makes no sense. -/
  | badValue
  /-- The block structure of the file is damaged. -/
  | malformed
  /-- A block is too short for its fields. -/
  | shortField
  /-- The picture has more pixels than the limit. -/
  | tooManyPixels
  deriving DecidableEq, Repr

/-- Opening treats a damaged structure like an unknown one. -/
def StillError.whileOpening : StillError → StillError
  | .malformed => .unidentified
  | .shortField => .unidentified
  | e => e

end Portrait
