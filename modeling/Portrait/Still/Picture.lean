import Portrait.Bmp
import Portrait.Gif.Still
import Portrait.Jpeg.File
import Portrait.Png.File
import Portrait.Tiff.File
import Portrait.Webp

/-!
# Still pictures

A picture in one of six containers, of which only the header has been read, and what can be had from
it.

* `Still.open` — recognises the container by its first bytes and reads its header.
* `Still.load` — the picture in colours.
* `Still.orientation` — the orientation tag.
-/

namespace Portrait

/-- The supported containers. -/
inductive Format where
  | jpeg
  | png
  | gif
  | bmp
  | tiff
  | webp
  deriving DecidableEq, Repr

def Format.name : Format → String
  | .jpeg => "JPEG"
  | .png => "PNG"
  | .gif => "GIF"
  | .bmp => "BMP"
  | .tiff => "TIFF"
  | .webp => "WEBP"

/-- The containers whose orientation tag is heeded when a picture is prepared. -/
def Format.hasOrientation : Format → Bool
  | .jpeg | .tiff => true
  | _ => false

/-- The container that begins like this. -/
def Format.ofPrefix? (bs : Bytes) : Option Format :=
  if [0xFF, 0xD8, 0xFF].isPrefixOf bs then some .jpeg
  else if Png.signature.isPrefixOf bs then some .png
  else if Gif.signature87.isPrefixOf bs || Gif.signature89.isPrefixOf bs then some .gif
  else if [0x42, 0x4D].isPrefixOf bs then some .bmp
  else if (Tiff.ByteOrder.ofMark? (bs.take 4)).isSome then some .tiff
  else if Webp.accepts bs then some .webp
  else none

/-- A picture whose header has been read. -/
inductive Still where
  | jpeg (f : Jpeg.File)
  | png (f : Png.File)
  | gif (f : Gif.Still)
  | bmp (f : Bmp.File)
  | tiff (f : Tiff.File)
  | webp (f : Webp.File)

namespace Still

def format : Still → Format
  | jpeg _ => .jpeg
  | png _ => .png
  | gif _ => .gif
  | bmp _ => .bmp
  | tiff _ => .tiff
  | webp _ => .webp

/-- Width and height. -/
def size : Still → Nat × Nat
  | jpeg f => (f.frame.width, f.frame.height)
  | png f => (f.info.width, f.info.height)
  | gif f => (f.width, f.height)
  | bmp f => (f.width, f.height)
  | tiff f => f.size
  | webp f => (f.width, f.height)

/-- Reads the header of a picture in a known container. -/
def openAs (bs : Bytes) : Format → Except StillError Still
  | .jpeg => (Jpeg.File.open bs).map jpeg
  | .png => (Png.File.open bs).map png
  | .gif => (Gif.Still.open bs).map gif
  | .bmp => (Bmp.File.open bs).map bmp
  | .tiff => (Tiff.File.open bs).map tiff
  | .webp => (Webp.File.open bs).map webp

/-- Reads the header of a picture. -/
def «open» (bs : Bytes) : Except StillError Still :=
  match Format.ofPrefix? bs with
  | none => .error .unidentified
  | some format =>
    match openAs bs format with
    | .error e => .error e.whileOpening
    | .ok s =>
      if pixelLimit < max 1 s.size.1 * max 1 s.size.2 then .error .tooManyPixels else .ok s

/-- The orientation tag of a picture whose pixels have not been asked for, unless the EXIF block
cannot be read. -/
def orientation : Still → Except StillError Nat
  | jpeg f => f.orientation
  | png f => f.orientation
  | gif _ => .ok 0
  | bmp _ => .ok 0
  | tiff f => .ok f.orientation
  | webp f => f.orientation

/-- The picture in colours, and the orientation tag as it is found afterwards. -/
def load : Still → Except StillError (Raster Rgba × Except StillError Nat)
  | jpeg f => f.load.map fun r => (r, f.orientation)
  | png f => f.load.map fun (r, info) => (r, info.orientation)
  | gif f => f.load.map fun r => (r, .ok 0)
  | bmp f => f.load.map fun r => (r, .ok 0)
  | tiff f => f.load.map fun r => (r, .ok f.orientationAfterLoad)
  | webp _ => .error .broken

end Still

end Portrait
