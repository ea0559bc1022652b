import Portrait.Gif.ColorTable
import Portrait.Gif.Error
import Portrait.Gif.SubBlocks

/-!
# GIF containers

The block structure of a GIF, with the pixel data of its frames still compressed.

* `CodedFrame` — one image block with the graphic control values that apply to it.
* `Container` — canvas size, loop count and frames.

The layout constants of the format stand here, for the parser and the writer alike.
-/

namespace Portrait.Gif

/-- Graphic control values; they apply to the next image only. -/
structure Control where
  delay : Nat := 0
  disposal : Nat := 0
  transparency : Option UInt8 := none
  deriving DecidableEq, Repr

/-- An image block and the graphic control values that apply to it. `chunks` are its data
sub-blocks, without size bytes and terminator. -/
structure CodedFrame where
  left : Nat
  top : Nat
  width : Nat
  height : Nat
  interlaced : Bool
  palette : Bytes
  minCodeSize : UInt8
  chunks : List Bytes
  control : Control
  deriving DecidableEq, Repr

/-- The data sub-blocks as they stand in the file, terminator included. -/
def CodedFrame.data (f : CodedFrame) : Bytes := SubBlocks.encode f.chunks

/-- A GIF with its frames still compressed. -/
structure Container where
  width : Nat
  height : Nat
  backgroundIndex : UInt8
  loopCount : Option Nat
  frames : List CodedFrame
  deriving DecidableEq, Repr

def extensionIntroducer : UInt8 := 0x21
def imageIntroducer : UInt8 := 0x2C
def trailer : UInt8 := 0x3B

def graphicControlLabel : UInt8 := 0xF9
def applicationLabel : UInt8 := 0xFF

/-- The packed-field flag of a color table. -/
def colorTableFlag : UInt8 := 0x80

/-- The packed-field flag of interlaced rows. -/
def interlaceFlag : UInt8 := 0x40

/-- The letters `GIF87a`. -/
def signature87 : Bytes := [0x47, 0x49, 0x46, 0x38, 0x37, 0x61]

/-- The letters `GIF89a`. -/
def signature89 : Bytes := [0x47, 0x49, 0x46, 0x38, 0x39, 0x61]

/-- The letters `NETSCAPE2.0`: the application that defined the loop count. -/
def loopApplication : Bytes :=
  [0x4E, 0x45, 0x54, 0x53, 0x43, 0x41, 0x50, 0x45, 0x32, 0x2E, 0x30]

end Portrait.Gif
