import Portrait.Bytes

/-!
# Color tables

A GIF color table is a run of RGB triplets whose entry count is a power of two. Descriptors do not
store the count: the low three bits of their packed field hold the exponent less one.

* `byteSize` — bytes in the table that a packed field announces.
* `sizeBits` — the smallest exponent field whose table holds a palette.
* `pad` — the palette, filled up with black to the size of that table.
-/

namespace Portrait.Gif.ColorTable

/-- Bytes in the color table announced by the low three bits of a packed field. -/
def byteSize (packed : UInt8) : Nat := 3 * 1 <<< (packed.toNat % 8 + 1)

/-- Size field of the smallest color table that holds `palette`. -/
def sizeBits (palette : Bytes) : Nat := Nat.log2 (max (palette.length / 3) 2 - 1)

/-- Bytes in the smallest color table that holds the whole triplets of `palette`. -/
def paddedSize (palette : Bytes) : Nat := 3 * 1 <<< (sizeBits palette + 1)

/-- The palette followed by black up to the size of its color table. -/
def pad (palette : Bytes) : Bytes :=
  palette ++ List.replicate (paddedSize palette - palette.length) 0

/-- The padded palette, refused for one whose incomplete last triplet sticks out of its table. -/
def pad? (palette : Bytes) : Option Bytes :=
  if palette.length ≤ paddedSize palette then some (pad palette) else none

/-- The whole RGB triplets of a palette; an incomplete last one is dropped. -/
def triplets : Bytes → List (UInt8 × UInt8 × UInt8)
  | r :: g :: b :: rest => (r, g, b) :: triplets rest
  | _ => []

end Portrait.Gif.ColorTable
