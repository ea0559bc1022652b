import Portrait.Png.Chunk
import Portrait.Text.Integer

/-!
# PNG files

* `File.open` — the chunks up to the pixel data.
* `File.load` — the pixels in colours, and what the chunks behind the pixel data add.
* `File.orientation` — the orientation tag; without an EXIF chunk in front of the pixel data the whole
  file is searched.
-/

namespace Portrait.Png

/-- A PNG up to its pixel data. -/
structure File where
  info : Info
  form : Form
  /-- The length of the first chunk of pixel data and the bytes from its data on. -/
  pixels : Option (Nat × Bytes)

theorem length_of_header {bs kind rest : Bytes} {length : Nat}
    (h : Header.read bs = .chunk length kind rest) : rest.length < bs.length := by
  unfold Header.read at h
  split at h
  · cases h
  rename_i r1 h1
  split at h
  · cases h
  rename_i r2 h2
  split at h
  · cases h
    have := Bytes.length_of_takeExact h1
    have := Bytes.length_of_takeExact h2
    omega
  · cases h

/-- The checksum that a chunk must carry. -/
def checksum (kind data : Bytes) : Bytes := Bytes.toBE 4 (Checksum.crc32 (kind ++ data)).toNat

/-- Reads chunks until the pixel data or the end of the picture. -/
def readChunks (info : Info) (bs : Bytes) : Except StillError (Info × Option (Nat × Bytes)) :=
  match _hr : Header.read bs with
  | .missing | .damaged => .error .malformed
  | .chunk length kind rest =>
    if kind = pixelKind then .ok (info, some (length, rest))
    else if kind = endKind then .ok (info, none)
    else
      match _hd : Bytes.takeExact length rest with
      | none => .error .broken
      | some (data, rest) =>
        match info.add (.ofName kind) data with
        | .error e => .error e
        | .ok info =>
          match _hc : Bytes.takeExact 4 rest with
          | none => .error .malformed
          | some (check, rest) =>
            if check = checksum kind data then readChunks info rest else .error .malformed
termination_by bs.length
decreasing_by
  have := length_of_header _hr
  have := Bytes.length_of_takeExact _hd
  have := Bytes.length_of_takeExact _hc
  omega

/-- Opens the file behind its signature. -/
def File.open (bs : Bytes) : Except StillError File :=
  match readChunks {} (bs.drop signature.length) with
  | .error e => .error e.whileOpening
  | .ok (info, pixels) =>
    match info.form with
    | none => .error .unidentified
    | some form =>
      if info.width = 0 ∨ info.height = 0 then .error .unidentified
      else .ok ⟨info, form, pixels⟩

/-- Pixel data is handed on in portions of at most this size. -/
def portionSize : Nat := 65536

/-- A chunk of pixel data in portions. -/
def portions (data : Bytes) : List Bytes :=
  if _h : data = [] then []
  else data.take portionSize :: portions (data.drop portionSize)
termination_by data.length
decreasing_by
  have : 0 < data.length := List.length_pos_iff.2 _h
  simp only [List.length_drop, portionSize]
  omega

/-- The chunks of pixel data, the first one having `length` bytes: their portions, what is wrong if
these are not enough, and the bytes behind the data of the last one. -/
def gather (length : Nat) (bs : Bytes) : List Bytes × StillError × Bytes :=
  match _ht : Bytes.takeExact length bs with
  | none => (portions bs, .broken, [])
  | some (data, rest) =>
    match _hr : Header.read (rest.drop 4) with
    | .missing => (portions data, .broken, rest)
    | .damaged => (portions data, .malformed, rest)
    | .chunk next kind behind =>
      if kind = pixelKind then
        let (more, e, tail) := gather next behind
        (portions data ++ more, e, tail)
      else (portions data, .broken, rest)
termination_by bs.length
decreasing_by
  have := Bytes.length_of_takeExact _ht
  have := length_of_header _hr
  simp only [List.length_drop] at this
  omega

/-- Reads the chunks behind the pixel data; `bs` begins with the checksum of the chunk before. -/
def readTail (info : Info) (bs : Bytes) : Except StillError Info :=
  match _hr : Header.read (bs.drop 4) with
  | .missing | .damaged => .ok info
  | .chunk length kind rest =>
    if kind = endKind then .ok info
    else
      match _hd : Bytes.takeExact length rest with
      | none => .error .broken
      | some (data, rest) =>
        if kind = pixelKind then readTail info rest
        else
          match info.add (.ofName kind) data with
          | .error e => .error e
          | .ok info => readTail info rest
termination_by bs.length
decreasing_by
  all_goals
    have := length_of_header _hr
    have := Bytes.length_of_takeExact _hd
    simp only [List.length_drop] at *
    omega

/-- Palette entries, black where the palette ends. -/
def entryAt (palette : Bytes) : Nat → Rgb :=
  let cells := palette.toArray
  let entries := cells.size / 3
  fun i =>
    if i < entries then ⟨cells.getD (3 * i) 0, cells.getD (3 * i + 1) 0, cells.getD (3 * i + 2) 0⟩
    else ⟨0, 0, 0⟩

/-- The opacity of a palette index. -/
def indexOpacity (t : Option Transparency) : Nat → UInt8 :=
  match t with
  | some (.index hole) => fun i => if i = hole then 0 else 255
  | some (.opacities bs) =>
    let cells := bs.toArray
    fun i => cells.getD i 255
  | _ => fun _ => 255

/-- The opacity of a gray level or colour: the one that is named transparent is compared by its low
byte. -/
def colorOpacity (t : Option Transparency) (color : List UInt8) : UInt8 :=
  match t with
  | some (.color samples) => if samples.map UInt8.ofNat = color then 0 else 255
  | _ => 255

/-- The colour of the pixel in column `x` of a row. -/
def pixelColor (info : Info) (form : Form) : Array UInt8 → Nat → Rgba :=
  match form.kind with
  | .gray =>
    if form.depth = 16 then fun row x =>
      let l := cutToByte (form.sample row x 0)
      ⟨l, l, l, 255⟩
    else fun row x =>
      let l := form.toByte (form.sample row x 0)
      ⟨l, l, l, colorOpacity info.transparency [l]⟩
  | .color => fun row x =>
    let r := form.toByte (form.sample row x 0)
    let g := form.toByte (form.sample row x 1)
    let b := form.toByte (form.sample row x 2)
    ⟨r, g, b, colorOpacity info.transparency [r, g, b]⟩
  | .indexed =>
    match info.palette with
    | none => fun _ _ => ⟨0, 0, 0, 255⟩
    | some palette =>
      let entry := entryAt palette
      let opacity := indexOpacity info.transparency
      fun row x =>
        let i := form.sample row x 0
        let c := entry i
        ⟨c.r, c.g, c.b, opacity i⟩
  | .grayAlpha => fun row x =>
    let l := form.toByte (form.sample row x 0)
    ⟨l, l, l, form.toByte (form.sample row x 1)⟩
  | .colorAlpha => fun row x =>
    ⟨form.toByte (form.sample row x 0), form.toByte (form.sample row x 1),
      form.toByte (form.sample row x 2), form.toByte (form.sample row x 3)⟩

/-- Palettes have at most 256 entries, and only they can be transparent. -/
def checkPalette (info : Info) (form : Form) : Except StillError Unit :=
  match form.kind, info.palette with
  | .indexed, some palette =>
    if 256 < palette.length / 3 then .error .badValue
    else
      match info.transparency with
      | some (.index i) => if 255 < i then .error .badValue else .ok ()
      | some (.opacities bs) => if 256 < bs.length then .error .badValue else .ok ()
      | _ => .ok ()
  | _, _ => .ok ()

/-- The rows in the portions of pixel data; rows behind the end of a stream that ends with a row
stay empty. -/
def readRaster (info : Info) (form : Form) (pieces : List Bytes) (e : StillError) :
    Except StillError (Array (Array (Array UInt8))) :=
  let ps := passes info.interlaced
  let size := dataSize form info.width info.height info.interlaced
  let (ending, data) := Deflate.inflatePieces size pieces
  let complete : Except StillError Unit :=
    match ending with
    | .full => .ok ()
    | .stopped .corrupt => .error .broken
    | .stopped .starved => if data.size = size then .ok () else .error e
    | .ended =>
      if data.size ≠ 0 ∧ endsRow form info.width info.height ps data.size then .ok () else .error e
  match readPasses form info.width info.height ps data 0 with
  | none => .error .broken
  | some rows => complete.map fun _ => rows.toArray

/-- The picture in colours, and what all chunks say. -/
def File.load (f : File) : Except StillError (Raster Rgba × Info) :=
  match f.pixels with
  | none => .error .broken
  | some (length, bs) =>
    let (pieces, e, tail) := gather length bs
    match readRaster f.info f.form pieces e with
    | .error e => .error e
    | .ok rows =>
      match readTail f.info tail with
      | .error e => .error e
      | .ok info =>
        match checkPalette f.info f.form with
        | .error e => .error e
        | .ok _ =>
          let color := pixelColor f.info f.form
          .ok (Raster.ofFn f.info.width f.info.height fun x y =>
            let (row, column) := locate f.info.interlaced rows x y
            color row column, info)

/-- The bytes that pairs of hexadecimal digits spell, blanks between the pairs being skipped. -/
def ofHex : Bytes → Option Bytes
  | [] => some []
  | b :: bs =>
    if b = 0x20 ∨ (0x09 ≤ b ∧ b ≤ 0x0D) then ofHex bs
    else
      match bs with
      | [] => none
      | c :: cs =>
        match Text.hexValue? b.toNat, Text.hexValue? c.toNat with
        | some high, some low => (ofHex cs).map (UInt8.ofNat (16 * high + low) :: ·)
        | _, _ => none

/-- What follows the first `n` lines of a text. -/
def dropLines : Nat → Bytes → Bytes
  | 0, bs => bs
  | n + 1, bs => dropLines n ((bs.dropWhile (· ≠ 0x0A)).drop 1)

/-- The EXIF block in a profile text: three lines of heading, then hexadecimal digits. -/
def profileBlock (text : Bytes) : Option Bytes :=
  ofHex ((dropLines 3 text).filter (· ≠ 0x0A))

/-- The XMP text, if there is one. -/
def Info.xmp (info : Info) : Option Bytes :=
  if info.textXmp ≠ [] then some info.textXmp
  else if info.rawXmp ≠ [] then some info.rawXmp else none

/-- The orientation that the chunks give, unless the EXIF block cannot be read. -/
def Info.orientation (info : Info) : Except StillError Nat :=
  let block : Option Bytes :=
    match info.exif, info.profile with
    | some block, _ => some block
    | none, some text => profileBlock text
    | none, none => some []
  match block with
  | none => .error .badValue
  | some block => (Exif.readBlock block).map fun d => Exif.orientation d info.xmp

/-- The orientation of a file whose pixels have not been asked for. -/
def File.orientation (f : File) : Except StillError Nat :=
  if f.info.exif.isSome then f.info.orientation
  else
    match f.load with
    | .error e => .error e
    | .ok (_, info) => info.orientation

end Portrait.Png
