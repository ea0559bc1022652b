import Portrait.Deflate.Stream
import Portrait.Exif
import Portrait.Raster.Orientation
import Portrait.Raster.Pixel

/-!
# TIFF pictures

The first directory of a TIFF file describes a picture: its size, the form of its pixels, and the
strips or tiles that hold them. A picture is turned upright by its orientation tag when its pixels are
read, and its size is given upright from the start.

* `File.open` — what the directory says.
* `File.load` — the upright picture in colours.
* `File.orientation` — the orientation tag.
-/

namespace Portrait.Tiff

/-- The numbers of the tags that matter. -/
structure Tags where
  width : Nat := 256
  height : Nat := 257
  depths : Nat := 258
  compression : Nat := 259
  photometric : Nat := 262
  fillOrder : Nat := 266
  stripOffsets : Nat := 273
  orientation : Nat := 274
  samples : Nat := 277
  rowsPerStrip : Nat := 278
  planar : Nat := 284
  colorMap : Nat := 320
  tileWidth : Nat := 322
  tileHeight : Nat := 323
  tileOffsets : Nat := 324
  extraSamples : Nat := 338
  sampleFormat : Nat := 339
  text : Nat := 700
  mediaPhoto : Nat := 0xBC01

def tags : Tags := {}

/-- How the pixel data is compressed. -/
inductive Compression where
  | none
  | packBits
  | deflate
  | other
  deriving DecidableEq, Repr

/-- The compression that a number names. -/
def Compression.ofNumber? (n : Int) : Option Compression :=
  if n = 1 then some .none
  else if n = 32773 then some .packBits
  else if n = 8 ∨ n = 32946 then some .deflate
  else if [2, 3, 4, 5, 6, 7, 32771, 32809, 32895, 34676, 34677, 34925, 50000, 50001].contains n then
    some .other
  else Option.none

/-- What the samples of a pixel mean. -/
inductive Form where
  | gray (bits : Nat) (inverted : Bool)
  | grayAlpha
  | color
  | colorAlpha (premultiplied : Bool)
  | indexed (bits : Nat)
  | inks
  | luminance
  | wide (channels : Nat) (alpha premultiplied : Bool)
  | unreadable
  deriving DecidableEq, Repr

/-- What decides about the form: byte order, photometric interpretation, sample format, order of bits,
bits of every sample, and the meaning of extra samples. -/
structure FormKey where
  order : ByteOrder
  photometric : Int
  sampleFormat : List Int
  fillOrder : Int
  depths : List Int
  extra : List Int
  deriving DecidableEq, Repr

/-- Are these eight-bit samples, `n` of them? -/
def allBytes (n : Nat) (depths : List Int) : Bool := depths == List.replicate n 8

/-- Are these sixteen-bit samples, `n` of them? -/
def allWide (n : Nat) (depths : List Int) : Bool := depths == List.replicate n 16

/-- The form of gray pictures. -/
def FormKey.gray? (k : FormKey) : Option Form :=
  let inverted := k.photometric = 0
  match k.sampleFormat, k.depths, k.extra with
  | [1], [8, 8], [2] => if inverted ∨ k.fillOrder ≠ 1 then none else some .grayAlpha
  | [1], [b], [] =>
    if b = 1 ∨ b = 2 ∨ b = 4 ∨ b = 8 then
      if k.fillOrder = 1 then some (.gray b.toNat inverted) else some .unreadable
    else if b = 16 then
      if k.fillOrder = 1 ∧ (k.order = .little ∨ !inverted) then some (.wide 1 false false)
      else if k.fillOrder = 2 ∧ k.order = .little ∧ !inverted then some .unreadable
      else none
    else if (b = 12 ∨ (b = 32 ∧ k.order = .little)) ∧ !inverted ∧ k.fillOrder = 1 then some .unreadable
    else none
  | [2], [b], [] =>
    if inverted ∨ k.fillOrder ≠ 1 then none
    else if b = 8 then some (.gray 8 false)
    else if b = 16 ∨ b = 32 then some .unreadable
    else none
  | [3], [32], [] => if k.fillOrder = 1 then some .unreadable else none
  | _, _, _ => none

/-- The form of pictures in primary colours. -/
def FormKey.color? (k : FormKey) : Option Form :=
  if k.sampleFormat ≠ [1] then none
  else if k.fillOrder = 2 then
    if allBytes 3 k.depths ∧ k.extra = [] then some .unreadable else none
  else if k.fillOrder ≠ 1 then none
  else
    let n := k.depths.length
    if allBytes n k.depths then
      match n, k.extra with
      | 3, [] => some .color
      | 4, [] | 4, [2] | 5, [2, 0] | 6, [2, 0, 0] | 4, [999] => some (.colorAlpha false)
      | 4, [0] | 5, [0, 0] | 6, [0, 0, 0] => some .color
      | 4, [1] | 5, [1, 0] | 6, [1, 0, 0] => some (.colorAlpha true)
      | _, _ => none
    else if allWide n k.depths then
      match n, k.extra with
      | 3, [] | 4, [0] => some (.wide n false false)
      | 4, [] | 4, [2] => some (.wide 4 true false)
      | 4, [1] => some (.wide 4 true true)
      | _, _ => none
    else none

/-- The form of pictures with a palette. -/
def FormKey.indexed? (k : FormKey) : Option Form :=
  if k.sampleFormat ≠ [1] then none
  else
    match k.depths, k.extra with
    | [b], [] =>
      if b = 1 ∨ b = 2 ∨ b = 4 ∨ b = 8 then
        if k.fillOrder = 1 then some (.indexed b.toNat)
        else if k.fillOrder = 2 then some .unreadable else none
      else none
    | [8, 8], [0] | [8, 8], [2] => if k.fillOrder = 1 then some .unreadable else none
    | _, _ => none

/-- The form of the pixels, if there is a known one. -/
def FormKey.form? (k : FormKey) : Option Form :=
  let plain := k.sampleFormat = [1] ∧ k.fillOrder = 1
  match k.photometric with
  | 0 | 1 => k.gray?
  | 2 => k.color?
  | 3 => k.indexed?
  | 5 =>
    if plain ∧ allBytes 4 k.depths ∧ k.extra = [] then some .inks
    else if plain ∧ ((allBytes 5 k.depths ∧ k.extra = [0]) ∨ (allBytes 6 k.depths ∧ k.extra = [0, 0]) ∨
        (allWide 4 k.depths ∧ k.extra = [])) then some .unreadable
    else none
  | 6 =>
    if plain ∧ allBytes 1 k.depths ∧ k.extra = [] then some (.gray 8 false)
    else if plain ∧ allBytes 3 k.depths ∧ k.extra = [] then some .luminance
    else none
  | 8 => if plain ∧ allBytes 3 k.depths ∧ k.extra = [] then some .unreadable else none
  | _ => none

/-- Bits per pixel. -/
def Form.bits : Form → List Int → Nat
  | .gray b _, _ => b
  | .indexed b, _ => b
  | .wide n _ _, _ => 16 * n
  | _, depths => (depths.foldl (· + ·) 0).toNat

/-- A file up to its pixels; `width` and `height` are those of the stored picture. -/
structure File where
  order : ByteOrder
  directory : Directory
  width : Nat
  height : Nat
  compression : Compression
  form : Form
  pixelBits : Nat
  separate : Bool
  /-- Size of a strip or tile. -/
  stripWidth : Nat
  stripHeight : Nat
  offsets : List Nat
  palette : List Nat
  data : Bytes
  deriving Repr

/-- The first number of a tag, `d` without the tag; `none` if the tag holds something else. -/
def Directory.number? (t : Directory) (tag : Nat) (d : Int) : Option Int :=
  match t.value? tag with
  | none => some d
  | some (.numbers (n :: _)) => some n
  | some _ => none

/-- The numbers of a tag, `d` without the tag; `none` if the tag holds something else. -/
def Directory.list? (t : Directory) (tag : Nat) (d : List Int) : Option (List Int) :=
  match t.value? tag with
  | none => some d
  | some (.numbers ns) => some ns
  | some _ => none

/-- A picture has at most this many samples per pixel. -/
def maxSamples : Int := 6

/-- A value without which the file is not recognised. -/
def known {α : Type} (o : Option α) : Except StillError α :=
  match o with
  | none => .error .unidentified
  | some a => .ok a

/-- Do all numbers of a list agree? -/
def agree (ns : List Int) : Bool := ns.all fun n => some n = ns.head?

/-- The bits of every sample: too many are dropped, a single one stands for all. -/
def sampleDepths (depths : List Int) (samples : Int) : Option (List Int) :=
  let depths :=
    if samples < depths.length then depths.take samples.toNat
    else if (depths.length : Int) < samples ∧ depths.length = 1 then
      (List.replicate samples.toNat depths).flatten
    else depths
  if (depths.length : Int) = samples then some depths else none

/-- Where the strips or tiles are, and their size. -/
def Directory.strips (t : Directory) (width height : Nat) (separate : Bool) :
    Except StillError (Nat × Nat × List Nat) := do
  let (w, h, offsets) ←
    match t.value? tags.stripOffsets with
    | some _ =>
      let h ← known (t.number? tags.rowsPerStrip height)
      let offsets ← known (t.list? tags.stripOffsets [])
      pure (width, h.toNat, offsets)
    | none =>
      match t.value? tags.tileOffsets with
      | none => throw .unidentified
      | some _ =>
        match t.numbers? tags.tileWidth, t.numbers? tags.tileHeight with
        | some (w :: _), some (h :: _) =>
          let offsets ← known (t.list? tags.tileOffsets [])
          pure (w.toNat, h.toNat, offsets)
        | _, _ => throw .badValue
  let offsets := offsets.map Int.toNat
  let whole := w = width ∧ h = height ∧ !separate
  return (w, h, if whole then offsets.drop (offsets.length - 1) else offsets)

/-- Opens the file. -/
def File.open (bs : Bytes) : Except StillError File := do
  let header ← known (Header.read? bs)
  if header.offset = 0 then throw .unidentified
  let t := Directory.read header.order bs header.offset
  if (t.value? tags.mediaPhoto).isSome then throw .broken
  let compression ← known ((t.number? tags.compression 1).bind Compression.ofNumber?)
  let planar ← known (t.number? tags.planar 1)
  let photometric ← known (t.number? tags.photometric 0)
  let fillOrder ← known (t.number? tags.fillOrder 1)
  if (t.value? tags.width).isNone ∨ (t.value? tags.height).isNone then throw .unidentified
  match t.numbers? tags.width, t.numbers? tags.height with
  | some (width :: _), some (height :: _) =>
    let format ← known (t.list? tags.sampleFormat [1])
    let format := if 1 < format.length ∧ agree format then format.take 1 else format
    let depths ← known (t.list? tags.depths [1])
    let extra ← known (t.list? tags.extraSamples [])
    let samples ← known (t.number? tags.samples 1)
    let separate := planar = 2
    let unspecified := separate ∧ extra ≠ [] ∧ extra.all (· ≤ 0)
    let depths' := if unspecified then depths.take (depths.length - extra.length) else depths
    let samples := if unspecified then samples - extra.length else samples
    let extra' := if unspecified then [] else extra
    if maxSamples < samples then throw .unidentified
    let depths' ← known (sampleDepths depths' samples)
    let form ← known (FormKey.form? ⟨header.order, photometric, format, fillOrder, depths', extra'⟩)
    if width ≤ 0 ∨ height ≤ 0 then throw .unidentified
    let (w, h, offsets) ← if compression = .none then t.strips width.toNat height.toNat separate
      else
        match t.strips width.toNat height.toNat separate with
        | .ok s => pure s
        | .error _ => pure (width.toNat, height.toNat, [])
    let palette ← match form with
      | .indexed _ => known ((t.value? tags.colorMap).bind fun _ => t.list? tags.colorMap [])
      | _ => pure []
    return {
      order := header.order
      directory := t
      width := width.toNat
      height := height.toNat
      compression := compression
      form := form
      pixelBits := form.bits depths'
      separate := separate
      stripWidth := w
      stripHeight := h
      offsets := offsets
      palette := palette.map Int.toNat
      data := bs }
  | _, _ => throw .badValue

/-- The XMP text. -/
def File.text (f : File) : Option Bytes :=
  match f.directory.value? tags.text with
  | some (.bytes bs) => if bs = [] then none else some bs
  | _ => none

/-- The orientation tag. -/
def File.orientation (f : File) : Nat := Exif.orientation f.directory f.text

/-- The orientation tag itself, which decides about the size that is given. -/
def File.isTurned (f : File) : Bool :=
  match f.directory.number? tags.orientation 0 with
  | some n => 5 ≤ n ∧ n ≤ 8
  | none => false

/-- The size that is given, upright. -/
def File.size (f : File) : Nat × Nat := if f.isTurned then (f.height, f.width) else (f.width, f.height)

/-- Runs of bytes: a count below 128 is followed by one byte more than it says, a higher one by a
byte to be repeated. -/
def unpackBits (need : Nat) (out : Array UInt8) (bs : Bytes) : Array UInt8 :=
  if need ≤ out.size then out
  else
    match bs with
    | [] => out
    | n :: rest =>
      if n < 128 then
        unpackBits need (out ++ rest.take (n.toNat + 1)) (rest.drop (n.toNat + 1))
      else if n = 128 then unpackBits need out rest
      else
        match rest with
        | [] => out
        | b :: rest => unpackBits need (out ++ Array.replicate (257 - n.toNat) b) rest
termination_by bs.length
decreasing_by
  all_goals simp only [List.length_cons, List.length_drop]; omega

/-- The bytes of one strip, if all `need` of them are there. -/
def File.stripBytes (f : File) (need offset : Nat) : Except StillError (Array UInt8) :=
  let bs := f.data.drop offset
  let cells : Except StillError (Array UInt8) :=
    match f.compression with
    | .none => .ok (bs.take need).toArray
    | .packBits => .ok (unpackBits need #[] bs)
    | .deflate => .ok (Deflate.inflate need bs).2
    | .other => .error .broken
  match cells with
  | .error e => .error e
  | .ok cells => if cells.size < need then .error .broken else .ok cells

/-- The strips or tiles that hold the picture. -/
def File.readStrips (f : File) : List Nat → Nat → Nat → Except StillError (List (Array UInt8))
  | [], _, _ => .ok []
  | offset :: rest, x, y =>
    let rowBytes := (f.stripWidth * f.pixelBits + 7) / 8
    let rows := min f.stripHeight (f.height - y)
    let x' := x + f.stripWidth
    let next := if f.width ≤ x' then (0, y + f.stripHeight) else (x', y)
    match f.stripBytes (rows * rowBytes) offset with
    | .error e => .error e
    | .ok cells =>
      match f.readStrips rest next.1 next.2 with
      | .error e => .error e
      | .ok more => .ok (cells :: more)

/-- A channel that has been multiplied with the opacity `a`; a transparent one is black. -/
def unmultiply (c a : UInt8) : UInt8 :=
  if a = 0 then 0 else UInt8.ofNat (min 255 (255 * c.toNat / a.toNat))

/-- The high bytes of a palette's entries, in which all reds precede all greens and blues. -/
def entryColor (table : Array Nat) (i : Nat) : Rgb :=
  let n := table.size / 3
  if i < n then
    ⟨UInt8.ofNat (table.getD i 0 / 256), UInt8.ofNat (table.getD (n + i) 0 / 256),
      UInt8.ofNat (table.getD (2 * n + i) 0 / 256)⟩
  else ⟨0, 0, 0⟩

/-- The colour of the pixel in column `x` of the row that starts at `start`. -/
def File.color (f : File) (table : Array Nat) (cells : Array UInt8) (start x : Nat) : Rgba :=
  let byte (i : Nat) : UInt8 := cells.getD (start + i) 0
  let bits (b : Nat) : Nat :=
    let perByte := 8 / b
    (byte (x / perByte)).toNat >>> (8 - b * (x % perByte + 1)) % 1 <<< b
  let i := x * (f.pixelBits / 8)
  let high (c : Nat) : UInt8 := byte (i + 2 * c + (if f.order = .little then 1 else 0))
  match f.form with
  | .gray b inverted =>
    let l := UInt8.ofNat (bits b * 255 / (1 <<< b - 1))
    let l := if inverted then 255 - l else l
    ⟨l, l, l, 255⟩
  | .grayAlpha => ⟨byte i, byte i, byte i, byte (i + 1)⟩
  | .color => ⟨byte i, byte (i + 1), byte (i + 2), 255⟩
  | .colorAlpha premultiplied =>
    let a := byte (i + 3)
    if premultiplied then
      ⟨unmultiply (byte i) a, unmultiply (byte (i + 1)) a, unmultiply (byte (i + 2)) a, a⟩
    else ⟨byte i, byte (i + 1), byte (i + 2), a⟩
  | .indexed b => (entryColor table (bits b)).opaqueColor
  | .wide 1 _ _ =>
    let v := f.order.nat [byte i, byte (i + 1)]
    let l := UInt8.ofNat (min v 255)
    ⟨l, l, l, 255⟩
  | .wide _ alpha premultiplied =>
    let a := if alpha then high 3 else 255
    if premultiplied then ⟨unmultiply (high 0) a, unmultiply (high 1) a, unmultiply (high 2) a, a⟩
    else ⟨high 0, high 1, high 2, a⟩
  | _ => ⟨0, 0, 0, 255⟩

/-- The stored picture in colours. -/
def File.loadStored (f : File) : Except StillError (Raster Rgba) :=
  if f.separate ∨ f.form = .unreadable ∨ f.form = .inks ∨ f.form = .luminance then .error .broken
  else if f.stripWidth = 0 ∨ f.stripHeight = 0 then .error .badValue
  else if f.offsets = [] then .error .broken
  else
    match f.readStrips f.offsets 0 0 with
    | .error e => .error e
    | .ok strips =>
      let strips := strips.toArray
      let table := f.palette.toArray
      let rowBytes := (f.stripWidth * f.pixelBits + 7) / 8
      let across := (f.width + f.stripWidth - 1) / f.stripWidth
      .ok (Raster.ofFn f.width f.height fun x y =>
        let cells := strips.getD (y / f.stripHeight * across + x / f.stripWidth) #[]
        f.color table cells (y % f.stripHeight * rowBytes) (x % f.stripWidth))

/-- The picture in colours, turned upright. -/
def File.load (f : File) : Except StillError (Raster Rgba) :=
  match f.loadStored with
  | .error e => .error e
  | .ok r => .ok (r.upright f.orientation)

/-- The orientation tag after the picture has been turned upright. -/
def File.orientationAfterLoad (f : File) : Nat := if 2 ≤ f.orientation then 0 else f.orientation

end Portrait.Tiff
