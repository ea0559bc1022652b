import Portrait.Checksum
import Portrait.Deflate.Stream
import Portrait.Exif
import Portrait.Png.Rows
import Portrait.Raster.Pixel

/-!
# Chunks of a PNG

A PNG is a signature and a sequence of chunks: a length, a four-letter kind, data and a checksum.
What the chunks around the pixel data say is collected in an `Info`.

* `Header.read` — length and kind of a chunk.
* `Info.add` — the effect of one chunk.
-/

namespace Portrait.Png

/-- The signature of the format. -/
def signature : Bytes := [0x89, 0x50, 0x4E, 0x47, 0x0D, 0x0A, 0x1A, 0x0A]

/-- May this byte stand in the kind of a chunk? -/
def isKindByte (b : UInt8) : Bool :=
  (0x30 ≤ b && b ≤ 0x39) || (0x41 ≤ b && b ≤ 0x5A) || b = 0x5F || (0x61 ≤ b && b ≤ 0x7A)

/-- Length and kind of a chunk, and the bytes behind them. -/
inductive Header where
  | chunk (length : Nat) (kind : Bytes) (rest : Bytes)
  | missing
  | damaged

/-- The header of the next chunk. -/
def Header.read (bs : Bytes) : Header :=
  match Bytes.takeExact 4 bs with
  | none => .missing
  | some (length, rest) =>
    match Bytes.takeExact 4 rest with
    | none => .damaged
    | some (kind, rest) =>
      if kind.all isKindByte then .chunk (Bytes.ofBE length) kind rest else .damaged

/-- What an indexed picture says about transparency: one index, or the opacity of the first entries;
any other picture names a colour. -/
inductive Transparency where
  | index (i : Nat)
  | opacities (bs : Bytes)
  | color (samples : List Nat)
  deriving DecidableEq, Repr

/-- What the chunks say. `form` is missing when the header names none that the format allows. -/
structure Info where
  width : Nat := 0
  height : Nat := 0
  form : Option Form := none
  interlaced : Bool := false
  palette : Option Bytes := none
  transparency : Option Transparency := none
  exif : Option Bytes := none
  profile : Option Bytes := none
  textXmp : Bytes := []
  rawXmp : Bytes := []
  deriving Repr

/-- Text in front of the first zero byte and behind it, if there is one. -/
def splitZero (bs : Bytes) : Option (Bytes × Bytes) :=
  match bs.dropWhile (· ≠ 0) with
  | [] => none
  | _ :: rest => some (bs.takeWhile (· ≠ 0), rest)

/-- Compressed texts may not be longer than this. -/
def textLimit : Nat := 1024 * 1024

/-- A compressed text; a damaged one is empty. -/
def inflateText (bs : Bytes) : Except StillError (Option Bytes) :=
  match Deflate.inflate textLimit bs with
  | (.full, _) => .error .badValue
  | (.stopped .corrupt, _) => .ok none
  | (_, out) => .ok (some out.toList)

/-- The key of an EXIF block that is spelled in hexadecimal digits. -/
def profileKey : Bytes := Bytes.ofString "Raw profile type exif"

/-- The key of a plain EXIF block. -/
def exifKey : Bytes := Bytes.ofString "exif"

/-- The key of an XMP text. -/
def xmpKey : Bytes := Bytes.ofString "XML:com.adobe.xmp"

/-- The effect of a text under a key. -/
def Info.addText (info : Info) (key text : Bytes) : Info :=
  if key = profileKey then { info with profile := some text }
  else if key = xmpKey then { info with textXmp := text }
  else info

/-- Is this text valid UTF-8? -/
def isUtf8 (bs : Bytes) : Bool := (ByteArray.mk bs.toArray).validateUTF8

/-- The header chunk. -/
def Info.addHeader (info : Info) (data : Bytes) : Except StillError Info :=
  match Bytes.takeExact 4 data with
  | some (width, rest) =>
    match Bytes.takeExact 4 rest with
    | some (height, depth :: color :: _compression :: filter :: interlace :: _) =>
      if filter ≠ 0 then .error .malformed
      else
        .ok { info with
          width := Bytes.ofBE width
          height := Bytes.ofBE height
          form := Form.ofBytes? depth color <|> info.form
          interlaced := info.interlaced || interlace ≠ 0 }
    | _ => .error .badValue
  | none => .error .badValue

/-- Is a single entry of the palette fully transparent and every other one listed opaque? -/
def singleHole? (bs : Bytes) : Option Nat :=
  let before := bs.takeWhile (· = 255)
  match bs.drop before.length with
  | 0 :: after => if after.all (· = 255) then some before.length else none
  | _ => none

/-- The transparency chunk. -/
def Info.addTransparency (info : Info) (data : Bytes) : Except StillError Info :=
  match info.form with
  | none => .ok info
  | some form =>
    match form.kind with
    | .indexed =>
      .ok { info with transparency := some (match singleHole? data with
        | some i => .index i
        | none => .opacities data) }
    | .gray =>
      match Bytes.u16BE? data 0 with
      | none => .error .shortField
      | some v =>
        let v := if form.depth = 1 ∧ v ≠ 0 then 255 else v
        .ok { info with transparency := some (.color [v]) }
    | .color =>
      match Bytes.u16BE? data 0, Bytes.u16BE? data 2, Bytes.u16BE? data 4 with
      | some r, some g, some b => .ok { info with transparency := some (.color [r, g, b]) }
      | _, _, _ => .error .shortField
    | _ => .ok info

/-- A chunk of plain text. -/
def Info.addPlainText (info : Info) (data : Bytes) : Info :=
  let (key, text) := (splitZero data).getD (data, [])
  if key = exifKey then { info with exif := some text } else info.addText key text

/-- A chunk of compressed text. -/
def Info.addCompressedText (info : Info) (data : Bytes) : Except StillError Info :=
  let (key, text) := (splitZero data).getD (data, [])
  match text with
  | [] => .ok (info.addText key [])
  | method :: compressed =>
    if method ≠ 0 then .error .malformed
    else
      match inflateText compressed with
      | .error e => .error e
      | .ok t => .ok (info.addText key (t.getD []))

/-- A chunk of text in UTF-8, with its language and a translated key. -/
def Info.addWideText (info : Info) (data : Bytes) : Except StillError Info :=
  match splitZero data with
  | some (key, flag :: method :: rest) =>
    match splitZero rest with
    | none => .ok info
    | some (language, rest) =>
      match splitZero rest with
      | none => .ok info
      | some (translated, text) =>
        let plain : Except StillError (Option Bytes) :=
          if flag = 0 then .ok (some text)
          else if method ≠ 0 then .ok none
          else inflateText text
        match plain with
        | .error e => .error e
        | .ok none => .ok info
        | .ok (some text) =>
          let info := if key = xmpKey then { info with rawXmp := text } else info
          if isUtf8 language && isUtf8 translated && isUtf8 text then .ok (info.addText key text)
          else .ok info
  | _ => .ok info

/-- A color profile: its name, a zero byte, and data compressed by the only method there is. -/
def checkProfile (data : Bytes) : Except StillError Unit :=
  let (method, compressed) :=
    match splitZero data with
    | none => (data.head?, data.drop 1)
    | some (_, rest) => (rest.head?, rest.drop 1)
  match method with
  | none => .error .malformed
  | some m =>
    if m ≠ 0 then .error .malformed
    else
      match inflateText compressed with
      | .error e => .error e
      | .ok _ => .ok ()

/-- The kinds of chunk that have an effect or a form to be kept. -/
inductive ChunkKind where
  | header
  | palette
  | transparency
  | gamma
  | chromaticity
  | renderingIntent
  | pixelSize
  | colorProfile
  | text
  | compressedText
  | wideText
  | exif
  | animation
  | frame
  | other
  deriving DecidableEq, Repr

/-- The kind that four letters name. -/
def ChunkKind.ofName (name : Bytes) : ChunkKind :=
  match String.fromUTF8? ⟨name.toArray⟩ with
  | some "IHDR" => .header
  | some "PLTE" => .palette
  | some "tRNS" => .transparency
  | some "gAMA" => .gamma
  | some "cHRM" => .chromaticity
  | some "sRGB" => .renderingIntent
  | some "pHYs" => .pixelSize
  | some "iCCP" => .colorProfile
  | some "tEXt" => .text
  | some "zTXt" => .compressedText
  | some "iTXt" => .wideText
  | some "eXIf" => .exif
  | some "acTL" => .animation
  | some "fcTL" => .frame
  | _ => .other

/-- Is the data at least `n` bytes long? -/
def require (info : Info) (n : Nat) (data : Bytes) (e : StillError) : Except StillError Info :=
  if data.length < n then .error e else .ok info

/-- The effect of one chunk. -/
def Info.add (info : Info) (kind : ChunkKind) (data : Bytes) : Except StillError Info :=
  match kind with
  | .header => info.addHeader data
  | .palette =>
    match info.form with
    | some ⟨_, .indexed⟩ => .ok { info with palette := some data }
    | _ => .ok info
  | .transparency => info.addTransparency data
  | .gamma => require info 4 data .shortField
  | .chromaticity => if data.length % 4 = 0 then .ok info else .error .shortField
  | .renderingIntent => require info 1 data .badValue
  | .pixelSize => require info 9 data .badValue
  | .colorProfile => (checkProfile data).map fun _ => info
  | .text => .ok (info.addPlainText data)
  | .compressedText => info.addCompressedText data
  | .wideText => info.addWideText data
  | .exif => .ok { info with exif := some (Exif.mark ++ data) }
  | .animation => require info 8 data .badValue
  | .frame => require info 26 data .badValue
  | .other => .ok info

/-- The kind of chunks of pixel data. -/
def pixelKind : Bytes := Bytes.ofString "IDAT"

/-- The kind of the last chunk. -/
def endKind : Bytes := Bytes.ofString "IEND"

end Portrait.Png
