import Portrait.Gif.Lzw.Decoder
import Portrait.Gif.Lzw.Encoder
import Portrait.Gif.Parser
import Portrait.Gif.Writer
import Portrait.Raster.Interlace
import Portrait.Raster.Pixel

/-!
# GIF animations

An animation is a canvas size and a sequence of frames; every frame keeps its own palette, offset,
timing and transparent index.

* `Animation.decode` — the animation in a byte string.
* `Animation.encode` — its byte string, with one local color table per frame. Every frame is
  written, also one that equals its predecessor.
* `Frame.toRgba` — the colours of a frame.
-/

namespace Portrait.Gif

/-- One frame: palette indices, and what the blocks around them say. `delay` counts hundredths of a
second. -/
structure Frame where
  image : Raster UInt8
  palette : Bytes
  left : Int := 0
  top : Int := 0
  delay : Int := 0
  disposal : Int := 0
  transparency : Option Int := none

/-- A sequence of frames on a canvas; `loopCount` is `none` when the stream does not give one. -/
structure Animation where
  width : Int
  height : Int
  frames : List Frame
  loopCount : Option Int := none
  backgroundIndex : Nat := 0

/-- Palettes have at most this many entries. -/
def maxEntries : Nat := 256

/-! ## Colours -/

/-- The colour of a palette index; indices beyond the palette are black. -/
def paletteColor (entries : Array (UInt8 × UInt8 × UInt8)) (transparency : Option Int)
    (index : UInt8) : Rgba :=
  let (r, g, b) := entries.getD index.toNat (0, 0, 0)
  ⟨r, g, b, if transparency = some (Int.ofNat index.toNat) then 0 else 255⟩

/-- The colours of a frame, the transparent index becoming fully transparent. -/
def Frame.toRgba (f : Frame) : Except Failure (Raster Rgba) :=
  let entries := (ColorTable.triplets f.palette).toArray
  if maxEntries < entries.size then .error .badArgument
  else
    match f.transparency with
    | none => .ok (f.image.map (paletteColor entries none))
    | some t =>
      if 0 ≤ t ∧ t < 256 then .ok (f.image.map (paletteColor entries (some t)))
      else .error .badArgument

/-! ## Decoding -/

/-- The palette indices of a coded frame. -/
def CodedFrame.decode (f : CodedFrame) : Except Failure (Raster UInt8) :=
  if pixelLimit < f.width * f.height then .error .tooManyPixels
  else
    match Lzw.decode? f.minCodeSize.toNat (f.width * f.height) f.chunks.flatten with
    | none => .error (.format .undecodableFrame)
    | some cells => .ok (Raster.deserialize f.width f.height f.interlaced cells 0)

/-- A frame with its pixels decoded. -/
def Frame.ofCoded (f : CodedFrame) : Except Failure Frame :=
  match f.decode with
  | .error e => .error e
  | .ok image =>
    .ok {
      image := image
      palette := f.palette
      left := f.left
      top := f.top
      delay := f.control.delay
      disposal := f.control.disposal
      transparency := f.control.transparency.map fun t => Int.ofNat t.toNat }

/-- The frames of a container, in order; the first failure wins. -/
def decodeFrames : List CodedFrame → Except Failure (List Frame)
  | [] => .ok []
  | f :: rest =>
    match Frame.ofCoded f with
    | .error e => .error e
    | .ok frame =>
      match decodeFrames rest with
      | .error e => .error e
      | .ok frames => .ok (frame :: frames)

/-- The animation in a byte string. -/
def Animation.decode (data : Bytes) : Except Failure Animation :=
  match Container.parse data with
  | .error e => .error (.format e)
  | .ok c =>
    match decodeFrames c.frames with
    | .error e => .error e
    | .ok frames =>
      .ok {
        width := c.width
        height := c.height
        frames := frames
        loopCount := c.loopCount.map Int.ofNat
        backgroundIndex := c.backgroundIndex.toNat }

/-! ## Encoding -/

/-- Entries in the color table that is written for a palette of `n` entries: a power of two, at
least four, but two for an empty palette. -/
def tableEntries (n : Nat) : Nat :=
  if n = 0 then 2 else if n < 3 then 4 else 1 <<< (Nat.log2 (n - 1) + 1)

/-- The color table that is written for a palette: its whole triplets, then black. -/
def writtenPalette (palette : Bytes) : Bytes :=
  let entries := palette.length / 3
  palette.take (3 * entries) ++ List.replicate (3 * (tableEntries entries - entries)) 0

/-- Pictures with a side shorter than this are not interlaced. -/
def interlaceMinimum : Nat := 16

/-- A frame with its pixels compressed, at no particular offset. There must be some. -/
def Frame.toCoded (f : Frame) : Except Failure CodedFrame :=
  if maxEntries < f.palette.length / 3 then .error .badArgument
  else if f.image.width = 0 ∨ f.image.height = 0 then .error .badArgument
  else if 65535 < f.image.width ∨ 65535 < f.image.height then .error .fieldOutOfRange
  else
    let interlaced := interlaceMinimum ≤ min f.image.width f.image.height
    .ok {
      left := 0
      top := 0
      width := f.image.width
      height := f.image.height
      interlaced := interlaced
      palette := writtenPalette f.palette
      minCodeSize := UInt8.ofNat Lzw.pixelBits
      chunks := SubBlocks.ofBytes (Lzw.encode (f.image.serialize interlaced))
      control := { transparency := f.transparency.map fun t => UInt8.ofNat (t % 256).toNat } }

/-- The blocks of one frame. -/
def Frame.encode (f : Frame) : Except Failure Bytes :=
  match f.toCoded with
  | .error e => .error e
  | .ok coded =>
    let transparency := coded.control.transparency.map fun t => Int.ofNat t.toNat
    match controlBlock f.delay f.disposal transparency, imageBlock coded f.left f.top true with
    | some control, some image => .ok (control ++ image)
    | _, _ => .error .fieldOutOfRange

/-- The blocks of a sequence of frames; the first failure wins. -/
def encodeFrames : List Frame → Except Failure Bytes
  | [] => .ok []
  | f :: rest =>
    match f.encode with
    | .error e => .error e
    | .ok block =>
      match encodeFrames rest with
      | .error e => .error e
      | .ok blocks => .ok (block ++ blocks)

/-- The loop block, if there is a loop count. -/
def loopBlock? (loopCount : Option Int) : Except Failure Bytes :=
  match loopCount with
  | none => .ok []
  | some n =>
    match loopBlock n with
    | none => .error .fieldOutOfRange
    | some block => .ok block

/-- The byte string of an animation. -/
def Animation.encode (a : Animation) : Except Failure Bytes :=
  if a.frames.isEmpty then .error (.format .noFrames)
  else
    match screenDescriptor a.width a.height with
    | none => .error .fieldOutOfRange
    | some screen =>
      match loopBlock? a.loopCount with
      | .error e => .error e
      | .ok loop =>
        match encodeFrames a.frames with
        | .error e => .error e
        | .ok frames => .ok (screen ++ loop ++ frames ++ [trailer])

end Portrait.Gif
