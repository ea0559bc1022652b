import Portrait.Gif.Container

/-!
# Writing GIF blocks

The byte forms of the blocks that the parser reads. Numbers that come from outside are integers;
a block is `none` when one of them does not fit its field.

* `screenDescriptor`, `loopBlock`, `controlBlock`, `imageBlock` — the blocks of an animation.
* `paletteHeader` — what stands before the blocks of a picture with a global color table.
* `CodedFrame.standalone` — a file with one frame of another file.
-/

namespace Portrait.Gif

/-- Two little-endian bytes, for a number that fits them. -/
def u16Field (n : Int) : Option Bytes :=
  if 0 ≤ n ∧ n < 65536 then some (Bytes.toLE 2 n.toNat) else none

/-- One byte, for a number that fits it. -/
def u8Field (n : Int) : Option Bytes :=
  if 0 ≤ n ∧ n < 256 then some [UInt8.ofNat n.toNat] else none

/-- Signature and screen descriptor of a GIF without a global color table. -/
def screenDescriptor (width height : Int) : Option Bytes :=
  match u16Field width, u16Field height with
  | some w, some h => some (signature89 ++ w ++ h ++ [0, 0, 0])
  | _, _ => none

/-- The extension that says how often the animation repeats. -/
def loopBlock (count : Int) : Option Bytes :=
  match u16Field count with
  | some n =>
    some ([extensionIntroducer, applicationLabel] ++
      SubBlocks.encode [loopApplication, 1 :: n])
  | none => none

/-- The packed byte of a graphic control block: the low three bits of the disposal method and the
transparency flag. -/
def controlPacked (disposal : Int) (transparency : Option Int) : UInt8 :=
  UInt8.ofNat ((disposal % 8).toNat * 4 + if transparency.isSome then 1 else 0)

/-- A graphic control block. -/
def controlBlock (delay disposal : Int) (transparency : Option Int) : Option Bytes :=
  match u16Field delay, u8Field (transparency.getD 0) with
  | some d, some t =>
    some ([extensionIntroducer, graphicControlLabel] ++
      SubBlocks.encode [controlPacked disposal transparency :: (d ++ t)])
  | _, _ => none

/-- The packed byte of an image descriptor. -/
def imagePacked (f : CodedFrame) (localPalette : Bool) : UInt8 :=
  (if f.interlaced then interlaceFlag else 0) |||
    if localPalette then colorTableFlag ||| UInt8.ofNat (ColorTable.sizeBits f.palette) else 0

/-- An image block at an offset, with or without its palette as local color table. -/
def imageBlock (f : CodedFrame) (left top : Int) (localPalette : Bool) : Option Bytes :=
  match u16Field left, u16Field top, u16Field f.width, u16Field f.height with
  | some l, some t, some w, some h =>
    some ([imageIntroducer] ++ l ++ t ++ w ++ h ++ [imagePacked f localPalette] ++
      (if localPalette then ColorTable.pad f.palette else []) ++ f.minCodeSize :: f.data)
  | _, _, _, _ => none

/-- Signature, screen descriptor and global color table of a GIF. -/
def paletteHeader (width height : Int) (palette : Bytes) : Option Bytes :=
  match u16Field width, u16Field height, ColorTable.pad? palette with
  | some w, some h, some table =>
    some (signature89 ++ w ++ h ++
      [colorTableFlag ||| UInt8.ofNat (ColorTable.sizeBits palette), 0, 0] ++ table)
  | _, _, _ => none

/-- A file with a frame and nothing else, for readers of pictures: the canvas is as large as the
frame, and the palette is the global color table. -/
def CodedFrame.standalone (f : CodedFrame) : Option Bytes := do
  let header ← paletteHeader f.width f.height f.palette
  let image ← imageBlock f 0 0 false
  return header ++ image ++ [trailer]

end Portrait.Gif
