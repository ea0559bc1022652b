import Portrait.Bytes
import Portrait.Raster.Pixel

/-!
# Windows bitmaps

A bitmap is a file header, an information header of one of several sizes, colour masks or a palette,
and rows of pixels, the lowest one first unless the height is negative. Pixels may be run-length
coded.

* `File.open` — everything in front of the pixels.
* `File.load` — the picture in colours.
-/

namespace Portrait.Bmp

/-- How pixels are stored. -/
inductive Coding where
  | plain
  | runs (halves : Bool)
  deriving DecidableEq, Repr

/-- What the bits of a pixel mean: levels of gray or entries of a palette with so many bits, or a
colour whose channels are bytes at the given places, or in 15 or 16 bits. A gray picture of four bits
or less is read as if it had one sample per byte (`gray`), or one bit per pixel (`bilevel`). -/
inductive Layout where
  | bilevel
  | gray
  | indexed (bits : Nat)
  | bytes (size r g b : Nat) (a : Option Nat)
  | packed (green : Nat)
  deriving DecidableEq, Repr

/-- A bitmap up to its pixels. `stride` is the distance of two rows in bytes. -/
structure File where
  width : Nat
  height : Nat
  topDown : Bool
  coding : Coding
  layout : Layout
  /-- The colours of the palette, three bytes each. -/
  palette : List Rgb
  entries : Nat
  stride : Nat
  offset : Nat
  data : Bytes
  deriving Repr

/-- The fields of an information header. -/
structure Fields where
  size : Nat
  width : Nat
  height : Nat
  topDown : Bool
  bits : Nat
  compression : Nat
  colors : Nat
  masks : Option (Nat × Nat × Nat × Nat)
  /-- Bytes per palette entry. -/
  entrySize : Nat
  deriving Repr

def rawCode : Nat := 0
def runs8Code : Nat := 1
def runs4Code : Nat := 2
def masksCode : Nat := 3

/-- A fallible read. -/
def field {α : Type} (o : Option α) : Except StillError α :=
  match o with
  | none => .error .shortField
  | some a => .ok a

/-- The information header in the oldest form. -/
def readOldFields (header : Bytes) : Except StillError Fields := do
  let width ← field (header.u16LE? 0)
  let height ← field (header.u16LE? 2)
  let bits ← field (header.u16LE? 6)
  return ⟨12, width, height, false, bits, rawCode, 0, none, 3⟩

/-- The colour masks: in the header if it is long enough, else behind it. -/
def readMasks (header behind : Bytes) :
    Except StillError ((Nat × Nat × Nat × Nat) × Bytes) := do
  if 48 ≤ header.length then
    let r ← field (header.u32LE? 36)
    let g ← field (header.u32LE? 40)
    let b ← field (header.u32LE? 44)
    let a ← if 52 ≤ header.length then field (header.u32LE? 48) else pure 0
    return ((r, g, b, a), behind)
  else
    let r ← field (behind.u32LE? 0)
    let g ← field (behind.u32LE? 4)
    let b ← field (behind.u32LE? 8)
    return ((r, g, b, 0), behind.drop 12)

/-- The information header in one of the newer forms, and the bytes behind it and its masks. A
height whose highest byte is 255 is negative. -/
def readNewFields (size : Nat) (header behind : Bytes) : Except StillError (Fields × Bytes) := do
  let width ← field (header.u32LE? 0)
  let height ← field (header.u32LE? 4)
  let bits ← field (header.u16LE? 10)
  let compression ← field (header.u32LE? 12)
  let colors ← field (header.u32LE? 28)
  let topDown := header.getD 7 0 = 0xFF
  let (masks, behind) ← if compression = masksCode then
      (readMasks header behind).map fun (m, rest) => (some m, rest)
    else pure (none, behind)
  return (⟨size, width, if topDown then 0x100000000 - height else height, topDown, bits, compression,
    colors, masks, 4⟩, behind)

/-- The information header and the bytes behind it. -/
def readFields (bs : Bytes) : Except StillError (Fields × Bytes) := do
  let (size, rest) ← field (Bytes.takeExact 4 bs)
  let size := Bytes.ofLE size
  match Bytes.takeExact (size - 4) rest with
  | none => throw .broken
  | some (header, behind) =>
    if size = 12 then return (← readOldFields header, behind)
    else if [40, 52, 56, 64, 108, 124].contains size then readNewFields size header behind
    else throw .broken

/-- The layout of colours with these masks. -/
def maskLayout? (bits : Nat) : Nat × Nat × Nat × Nat → Option Layout
  | (r, g, b, a) =>
    match bits, r, g, b, a with
    | 32, 0xFF0000, 0xFF00, 0xFF, 0 => some (.bytes 4 2 1 0 none)
    | 32, 0xFF000000, 0xFF0000, 0xFF00, 0 => some (.bytes 4 3 2 1 none)
    | 32, 0xFF000000, 0xFF00, 0xFF, 0 => some (.bytes 4 3 1 0 none)
    | 32, 0xFF000000, 0xFF0000, 0xFF00, 0xFF => some (.bytes 4 3 2 1 (some 0))
    | 32, 0xFF, 0xFF00, 0xFF0000, 0xFF000000 => some (.bytes 4 0 1 2 (some 3))
    | 32, 0xFF0000, 0xFF00, 0xFF, 0xFF000000 => some (.bytes 4 2 1 0 (some 3))
    | 32, 0xFF000000, 0xFF00, 0xFF, 0xFF0000 => some (.bytes 4 3 1 0 (some 2))
    | 32, 0, 0, 0, 0 => some (.bytes 4 2 1 0 (some 3))
    | 24, 0xFF0000, 0xFF00, 0xFF, _ => some (.bytes 3 2 1 0 none)
    | 16, 0xF800, 0x7E0, 0x1F, _ => some (.packed 6)
    | 16, 0x7C00, 0x3E0, 0x1F, _ => some (.packed 5)
    | _, _, _, _, _ => none

/-- The layout of pixels of so many bits. -/
def depthLayout? : Nat → Option Layout
  | 1 => some (.indexed 1)
  | 4 => some (.indexed 4)
  | 8 => some (.indexed 8)
  | 16 => some (.packed 5)
  | 24 => some (.bytes 3 2 1 0 none)
  | 32 => some (.bytes 4 2 1 0 none)
  | _ => none

/-- The palette entries at the front of `bs`, stored blue first. -/
def readEntries (entrySize : Nat) : Nat → Bytes → List Rgb
  | 0, _ => []
  | n + 1, bs =>
    match bs with
    | b :: g :: r :: _ =>
      if entrySize ≤ (bs.take entrySize).length then
        ⟨r, g, b⟩ :: readEntries entrySize n (bs.drop entrySize)
      else []
    | _ => []

/-- Is the palette a ramp from black to white, or the numbers in order? -/
def isGrayRamp (entrySize colors : Nat) (bs : Bytes) : Bool :=
  (List.range colors).all fun i =>
    let level := UInt8.ofNat (if colors = 2 ∧ i = 1 then 255 else i)
    ((bs.drop (i * entrySize)).take 3) == [level, level, level]

/-- Opens the file. -/
def File.open (bs : Bytes) : Except StillError File := do
  let offset ← field (bs.u32LE? 10)
  let (f, behind) ← readFields (bs.drop 14)
  let colors := if f.colors = 0 then 1 <<< f.bits else f.colors
  let offset := if offset = 14 + f.size ∧ f.bits ≤ 8 then offset + 4 * colors else offset
  let some layout := depthLayout? f.bits | throw .broken
  let (layout, coding) ←
    if f.compression = masksCode then
      match f.masks.bind (maskLayout? f.bits) with
      | some l => pure (l, Coding.plain)
      | none => throw .broken
    else if f.compression = rawCode then pure (layout, Coding.plain)
    else if f.compression = runs8Code then pure (layout, Coding.runs false)
    else if f.compression = runs4Code then pure (layout, Coding.runs true)
    else throw .broken
  let (layout, palette, behind) ← match layout with
    | .indexed bits =>
      if colors = 0 ∨ 65536 < colors then throw .broken
      else
        let table := behind.take (f.entrySize * colors)
        let behind := behind.drop (f.entrySize * colors)
        if isGrayRamp f.entrySize colors table then
          pure (if colors = 2 then Layout.bilevel else Layout.gray, [], behind)
        else pure (Layout.indexed bits, readEntries f.entrySize colors table, behind)
    | l => pure (l, [], behind)
  if f.width = 0 ∨ f.height = 0 then throw .unidentified
  return {
    width := f.width
    height := f.height
    topDown := f.topDown
    coding := coding
    layout := layout
    palette := palette
    entries := palette.length
    stride := (f.width * f.bits + 31) / 32 * 4
    offset := if offset = 0 then bs.length - behind.length else offset
    data := bs }

/-- Bits per pixel as the pixels are read. -/
def Layout.bits : Layout → Nat
  | .bilevel => 1
  | .gray => 8
  | .indexed bits => bits
  | .bytes size _ _ _ _ => 8 * size
  | .packed _ => 16

/-- The colour of a palette index, black behind its end. -/
def entryColor (table : Array Rgb) (i : Nat) : Rgba := (table.getD i ⟨0, 0, 0⟩).opaqueColor

/-- A value of `bits` bits stretched to a byte. -/
def stretch (bits n : Nat) : UInt8 := UInt8.ofNat (n * 255 / (1 <<< bits - 1))

/-- The colour of the pixel in column `x` of the row that starts at `start`. -/
def File.color (f : File) (table : Array Rgb) (cells : Array UInt8) (start x : Nat) : Rgba :=
  let byte (i : Nat) : UInt8 := cells.getD (start + i) 0
  match f.layout with
  | .bilevel =>
    let l : UInt8 := if (byte (x / 8)).toNat >>> (7 - x % 8) % 2 = 1 then 255 else 0
    ⟨l, l, l, 255⟩
  | .gray => ⟨byte x, byte x, byte x, 255⟩
  | .indexed bits =>
    let perByte := 8 / bits
    entryColor table ((byte (x / perByte)).toNat >>> (8 - bits * (x % perByte + 1)) % 1 <<< bits)
  | .bytes size r g b a =>
    let i := x * size
    ⟨byte (i + r), byte (i + g), byte (i + b), (a.map fun a => byte (i + a)).getD 255⟩
  | .packed green =>
    let v := (byte (2 * x)).toNat + 256 * (byte (2 * x + 1)).toNat
    ⟨stretch 5 (v >>> (5 + green) % 32), stretch green (v / 32 % 1 <<< green), stretch 5 (v % 32),
      255⟩

/-- The picture of a file whose rows all stand in the data. -/
def File.loadPlain (f : File) (table : Array Rgb) : Except StillError (Raster Rgba) :=
  let rowBytes := (f.width * f.layout.bits + 7) / 8
  let cells := (f.data.drop f.offset).toArray
  if f.stride < rowBytes ∨ cells.size < (f.height - 1) * f.stride + rowBytes then .error .broken
  else
    .ok (Raster.ofFn f.width f.height fun x y =>
      f.color table cells ((if f.topDown then y else f.height - 1 - y) * f.stride) x)

/-- Pixels of a run of `n`, cut off at the end of the row. -/
def runPixels (halves : Bool) (n : Nat) (value : UInt8) : List UInt8 :=
  if halves then
    (List.range n).map fun i => if i % 2 = 0 then value / 16 else value % 16
  else List.replicate n value

/-- Decodes runs onto `out` until there are `need` pixels; `x` is the column and `position` the place
in the file, on which the padding of literal pixels depends. -/
def decodeRuns (halves : Bool) (width need : Nat) (out : Array UInt8) (x position : Nat)
    (bs : Bytes) : Except StillError (Array UInt8) :=
  if need ≤ out.size then .ok out
  else
    match bs with
    | count :: value :: rest =>
      if count ≠ 0 then
        let n := if width < x + count.toNat then width - x else count.toNat
        decodeRuns halves width need (out ++ runPixels halves n value) (x + n) (position + 2) rest
      else if value = 0 then
        let gap := (width - out.size % width) % width
        decodeRuns halves width need (out ++ Array.replicate gap 0) 0 (position + 2) rest
      else if value = 1 then .ok out
      else if value = 2 then
        match rest with
        | _ :: _ :: right :: up :: rest =>
          let gap := right.toNat + up.toNat * width
          let out := out ++ Array.replicate gap 0
          decodeRuns halves width need out (out.size % width) (position + 6) rest
        | _ :: _ :: _ => .error .badValue
        | _ => .ok out
      else
        let size := if halves then value.toNat / 2 else value.toNat
        let literal := rest.take size
        let out := out ++ (if halves then literal.flatMap fun b => [b / 16, b % 16] else literal)
        if literal.length < size then .ok out
        else
          let odd := (position + 2 + size) % 2
          decodeRuns halves width need out (x + value.toNat) (position + 2 + size + odd)
            (rest.drop (size + odd))
    | _ => .ok out
termination_by bs.length
decreasing_by
  all_goals simp only [List.length_cons, List.length_drop]; omega

/-- The picture of a run-length coded file. -/
def File.loadRuns (f : File) (table : Array Rgb) (halves : Bool) :
    Except StillError (Raster Rgba) :=
  match decodeRuns halves f.width (f.width * f.height) #[] 0 f.offset (f.data.drop f.offset) with
  | .error e => .error e
  | .ok cells =>
    if cells.size < f.width * f.height then .error .badValue
    else
      match f.layout with
      | .gray | .indexed _ =>
        .ok (Raster.ofFn f.width f.height fun x y =>
          let cell := cells.getD ((if f.topDown then y else f.height - 1 - y) * f.width + x) 0
          match f.layout with
          | .gray => ⟨cell, cell, cell, 255⟩
          | _ => entryColor table cell.toNat)
      | _ => .error .badValue

/-- The picture in colours. -/
def File.load (f : File) : Except StillError (Raster Rgba) :=
  if 256 < f.entries then .error .badValue
  else
    let table := f.palette.toArray
    match f.coding with
    | .plain => f.loadPlain table
    | .runs halves => f.loadRuns table halves

end Portrait.Bmp
