import Portrait.Bytes
import Portrait.Exif
import Portrait.Raster.Pixel

/-!
# WebP headers

A WebP file is a RIFF container with a lossy picture, a lossless picture, or an extended file with a
canvas size and chunks for frames and metadata. Only headers are read.

* `File.open` — the size of the picture, and its metadata.
-/

namespace Portrait.Webp

/-- The header of a WebP file. -/
structure File where
  width : Nat
  height : Nat
  exif : Option Bytes
  xmp : Option Bytes
  deriving Repr

/-- The letters `RIFF`. -/
def riffMark : Bytes := Bytes.ofString "RIFF"

/-- The letters `WEBP`. -/
def webpMark : Bytes := Bytes.ofString "WEBP"

def lossyName : Bytes := Bytes.ofString "VP8 "
def losslessName : Bytes := Bytes.ofString "VP8L"
def extendedName : Bytes := Bytes.ofString "VP8X"
def frameName : Bytes := Bytes.ofString "ANMF"
def exifName : Bytes := Bytes.ofString "EXIF"
def textName : Bytes := Bytes.ofString "XMP "

/-- Does the data begin like a WebP file? -/
def accepts (bs : Bytes) : Bool :=
  riffMark.isPrefixOf bs && webpMark.isPrefixOf (bs.drop 8) &&
    (let name := (bs.drop 12).take 4
     name == lossyName || name == losslessName || name == extendedName)

/-- A chunk: its name and data, cut short by the end of the file, and what follows its padding. -/
def readChunk (bs : Bytes) : Option (Bytes × Nat × Bytes × Bytes) :=
  match Bytes.takeExact 4 bs with
  | none => none
  | some (name, rest) =>
    match Bytes.takeExact 4 rest with
    | none => none
    | some (size, rest) =>
      let size := Bytes.ofLE size
      some (name, size, rest.take size, rest.drop (size + size % 2))

theorem length_of_readChunk {bs name data rest : Bytes} {size : Nat}
    (h : readChunk bs = some (name, size, data, rest)) : rest.length < bs.length := by
  unfold readChunk at h
  split at h
  · cases h
  rename_i h1
  split at h
  · cases h
  rename_i h2
  cases h
  have := Bytes.length_of_takeExact h1
  have := Bytes.length_of_takeExact h2
  simp only [List.length_drop]
  omega

/-- The size in the header of a lossy picture: a visible key frame of a known profile. -/
def lossySize? (size : Nat) (data : Bytes) : Option (Nat × Nat) :=
  match data with
  | b0 :: b1 :: b2 :: 0x9D :: 0x01 :: 0x2A :: w0 :: w1 :: h0 :: h1 :: _ =>
    let bits := Bytes.ofLE [b0, b1, b2]
    let width := Bytes.ofLE [w0, w1] % 16384
    let height := Bytes.ofLE [h0, h1] % 16384
    if bits % 2 = 0 ∧ bits / 2 % 8 ≤ 3 ∧ bits / 16 % 2 = 1 ∧ bits / 32 < size ∧
        width ≠ 0 ∧ height ≠ 0 then some (width, height)
    else none
  | _ => none

/-- The size in the header of a lossless picture. -/
def losslessSize? (data : Bytes) : Option (Nat × Nat) :=
  match data with
  | 0x2F :: b0 :: b1 :: b2 :: b3 :: _ =>
    let bits := Bytes.ofLE [b0, b1, b2, b3]
    if bits < 0x20000000 then some (bits % 16384 + 1, bits / 16384 % 16384 + 1) else none
  | _ => none

/-- The size of the picture in a chunk. -/
def pictureSize? (name : Bytes) (size : Nat) (data : Bytes) : Option (Nat × Nat) :=
  if name = lossyName then lossySize? size data
  else if name = losslessName then losslessSize? data
  else none

/-- The chunks of an extended file. -/
def readChunks (bs : Bytes) : List (Bytes × Nat × Bytes) :=
  match _h : readChunk bs with
  | none => []
  | some (name, size, data, rest) => (name, size, data) :: readChunks rest
termination_by bs.length
decreasing_by exact length_of_readChunk _h

/-- The data of the first chunk of a name. -/
def dataOf? (name : Bytes) (chunks : List (Bytes × Nat × Bytes)) : Option Bytes :=
  (chunks.find? fun c => c.1 = name).map (·.2.2)

/-- An extended file: a canvas that its only picture fills, or that holds frames. -/
def openExtended (data rest : Bytes) : Except StillError File :=
  match Bytes.takeExact 4 data with
  | some (flags, fields) =>
    let width := Bytes.ofLE (fields.take 3) + 1
    let height := Bytes.ofLE ((fields.drop 3).take 3) + 1
    let animated := Bytes.ofLE flags / 2 % 2 = 1
    let chunks := readChunks rest
    let fits :=
      if animated then (dataOf? frameName chunks).isSome
      else
        match chunks.find? fun c => c.1 = lossyName ∨ c.1 = losslessName with
        | some (name, size, data) => pictureSize? name size data == some (width, height)
        | none => false
    if fields.length < 6 ∨ 0x100000000 ≤ width * height ∨ !fits then .error .broken
    else .ok ⟨width, height, dataOf? exifName chunks, dataOf? textName chunks⟩
  | none => .error .broken

/-- Opens the file. All of the data that its header announces must be there. -/
def File.open (bs : Bytes) : Except StillError File :=
  let size := Bytes.ofLE ((bs.drop 4).take 4)
  if bs.length < size + 8 ∨ size < 12 then .error .broken
  else
    match readChunk ((bs.take (size + 8)).drop 12) with
    | none => .error .broken
    | some (name, size, data, rest) =>
      if data.length < size then .error .broken
      else if name = extendedName then openExtended data rest
      else
        match pictureSize? name size data with
        | none => .error .broken
        | some (width, height) => .ok ⟨width, height, none, none⟩

/-- The orientation tag, unless the EXIF block cannot be read. -/
def File.orientation (f : File) : Except StillError Nat :=
  (Exif.readBlock (f.exif.getD [])).map fun d => Exif.orientation d f.xmp

end Portrait.Webp
