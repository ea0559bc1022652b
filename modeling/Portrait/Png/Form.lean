import Portrait.Raster.Pixel

/-!
# Pixel forms of PNG

A header byte gives the bits of a sample, another the kind of colour. Samples are packed from the
highest bit of each byte on; a row starts at a new byte.

* `Form.ofBytes?` — the forms that the format allows.
* `Form.sample` — one sample of a row.
-/

namespace Portrait.Png

inductive Kind where
  | gray
  | color
  | indexed
  | grayAlpha
  | colorAlpha
  deriving DecidableEq, Repr

/-- Samples per pixel. -/
def Kind.channels : Kind → Nat
  | .gray => 1
  | .color => 3
  | .indexed => 1
  | .grayAlpha => 2
  | .colorAlpha => 4

/-- Bits per sample, and what the samples mean. -/
structure Form where
  depth : Nat
  kind : Kind
  deriving DecidableEq, Repr

/-- The form that two header bytes name. -/
def Form.ofBytes? (depth color : UInt8) : Option Form :=
  match color.toNat, depth.toNat with
  | 0, 1 => some ⟨1, .gray⟩
  | 0, 2 => some ⟨2, .gray⟩
  | 0, 4 => some ⟨4, .gray⟩
  | 0, 8 => some ⟨8, .gray⟩
  | 0, 16 => some ⟨16, .gray⟩
  | 2, 8 => some ⟨8, .color⟩
  | 2, 16 => some ⟨16, .color⟩
  | 3, 1 => some ⟨1, .indexed⟩
  | 3, 2 => some ⟨2, .indexed⟩
  | 3, 4 => some ⟨4, .indexed⟩
  | 3, 8 => some ⟨8, .indexed⟩
  | 4, 8 => some ⟨8, .grayAlpha⟩
  | 4, 16 => some ⟨16, .grayAlpha⟩
  | 6, 8 => some ⟨8, .colorAlpha⟩
  | 6, 16 => some ⟨16, .colorAlpha⟩
  | _, _ => none

/-- Bits per pixel. -/
def Form.pixelBits (f : Form) : Nat := f.depth * f.kind.channels

/-- Bytes of a row of `columns` pixels. -/
def Form.rowBytes (f : Form) (columns : Nat) : Nat := (columns * f.pixelBits + 7) / 8

/-- How far back the filters look for the pixel to the left. -/
def Form.filterDistance (f : Form) : Nat := (f.pixelBits + 7) / 8

/-- Sample `channel` of the pixel in column `x` of a row. -/
def Form.sample (f : Form) (row : Array UInt8) (x channel : Nat) : Nat :=
  let i := x * f.kind.channels + channel
  if f.depth = 16 then
    (row.getD (2 * i) 0).toNat * 256 + (row.getD (2 * i + 1) 0).toNat
  else
    let perByte := 8 / f.depth
    (row.getD (i / perByte) 0).toNat >>> (8 - f.depth * (i % perByte + 1)) % 1 <<< f.depth

/-- A sample brought to eight bits: a small one is scaled up, a large one loses its low byte. -/
def Form.toByte (f : Form) (sample : Nat) : UInt8 :=
  if f.depth = 16 then UInt8.ofNat (sample / 256)
  else UInt8.ofNat (sample * 255 / (1 <<< f.depth - 1))

/-- A gray sample of sixteen bits is not scaled but cut to the range of a byte. -/
def cutToByte (sample : Nat) : UInt8 := UInt8.ofNat (min sample 255)

end Portrait.Png
