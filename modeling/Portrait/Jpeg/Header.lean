import Portrait.Exif
import Portrait.Huffman
import Portrait.Raster.Pixel

/-!
# JPEG headers

A JPEG is a sequence of segments, each behind a marker: a byte `0xFF` and a byte that names it.
Everything up to the first scan is the header: size and components, tables, and application data.

* `Header.add` — the effect of one segment.
* `File.open` — the header, the scan header and the bytes behind it.
* `File.orientation` — the orientation tag.
-/

namespace Portrait.Jpeg

/-- One component of the picture: sampling factors and number of its quantisation table. -/
structure Component where
  id : Nat
  across : Nat
  down : Nat
  table : Nat
  deriving DecidableEq, Repr, Inhabited

/-- The frame segment; `marker` tells the coding process. -/
structure Frame where
  marker : UInt8
  width : Nat
  height : Nat
  components : List Component
  deriving DecidableEq, Repr

/-- What the segments up to the first scan say. -/
structure Header where
  frame : Option Frame := none
  quantization : List (Nat × List Nat) := []
  codes : List (Nat × CanonicalCode) := []
  restart : Nat := 0
  isJfif : Bool := false
  hasDensity : Bool := false
  transform : Option UInt8 := none
  exif : Option Bytes := none
  xmp : Option Bytes := none
  profiles : List Bytes := []
  deriving Repr

/-- The letters `JFIF`. -/
def jfifMark : Bytes := [0x4A, 0x46, 0x49, 0x46]

/-- The mark of an XMP text, which ends with a zero byte. -/
def xmpMark : Bytes := Bytes.ofString "http://ns.adobe.com/xap/1.0/" ++ [0]

/-- The mark of a color profile, which ends with a zero byte. -/
def profileMark : Bytes := Bytes.ofString "ICC_PROFILE" ++ [0]

/-- The letters `Adobe`. -/
def adobeMark : Bytes := [0x41, 0x64, 0x6F, 0x62, 0x65]

/-- Application segment 0: a JFIF segment may carry a density in dots per inch or centimetre. -/
def Header.addJfif (h : Header) (data : Bytes) : Except StillError Header :=
  if data.length < 7 then .error .shortField
  else
    let hasFields := 12 ≤ data.length
    let unit := data.getD 7 0
    .ok { h with
      isJfif := true
      hasDensity := h.hasDensity || (hasFields && (unit = 1 || unit = 2)) }

/-- Application segment 1: EXIF blocks, which are joined, or an XMP text. -/
def Header.addMetadata (h : Header) (data : Bytes) : Header :=
  if Exif.mark.isPrefixOf data then
    match h.exif with
    | none => { h with exif := some data }
    | some before => { h with exif := some (before ++ data.drop Exif.mark.length) }
  else if xmpMark.isPrefixOf data then { h with xmp := some (data.drop xmpMark.length) }
  else h

/-- Reads the quantisation tables of a segment, 8 or 16 bits per entry. -/
def readTables (tables : List (Nat × List Nat)) (data : Bytes) :
    Except StillError (List (Nat × List Nat)) :=
  match data with
  | [] => .ok tables
  | b :: rest =>
    let width := if b.toNat / 16 = 0 then 1 else 2
    match _ht : Bytes.takeExact (64 * width) rest with
    | none => .error .malformed
    | some (cells, rest') =>
      let table := (List.range 64).map fun i => Bytes.ofBE ((cells.drop (i * width)).take width)
      readTables ((b.toNat % 16, table) :: tables) rest'
termination_by data.length
decreasing_by
  have := Bytes.length_of_takeExact _ht
  simp only [List.length_cons]
  omega

/-- Reads the prefix codes of a segment; what is left of a damaged segment is skipped. A code is
numbered by its class and its slot. -/
def readCodes (codes : List (Nat × CanonicalCode)) (data : Bytes) : List (Nat × CanonicalCode) :=
  match data with
  | [] => codes
  | b :: rest =>
    match _hc : Bytes.takeExact 16 rest with
    | none => codes
    | some (counts, rest') =>
      let counts := counts.map UInt8.toNat
      match _hs : Bytes.takeExact (counts.foldl (· + ·) 0) rest' with
      | none => codes
      | some (symbols, rest'') =>
        readCodes ((b.toNat, ⟨counts, (symbols.map UInt8.toNat).toArray⟩) :: codes) rest''
termination_by data.length
decreasing_by
  have := Bytes.length_of_takeExact _hc
  have := Bytes.length_of_takeExact _hs
  simp only [List.length_cons]
  omega

/-- The components that a frame segment lists. -/
def readComponents : Bytes → Except StillError (List Component)
  | [] => .ok []
  | id :: sampling :: table :: rest =>
    match readComponents rest with
    | .error e => .error e
    | .ok cs =>
      .ok (⟨id.toNat, sampling.toNat / 16, sampling.toNat % 16, table.toNat⟩ :: cs)
  | _ => .error .malformed

/-- The first color profile must have its sequence numbers. -/
def checkProfiles (profiles : List Bytes) : Except StillError Unit :=
  match profiles.mergeSort (fun a b => a ≤ b) with
  | [] => .ok ()
  | first :: _ => if first.length < 14 then .error .malformed else .ok ()

/-- A frame segment: eight bits per sample, and one, three or four components. -/
def Header.addFrame (h : Header) (marker : UInt8) (data : Bytes) : Except StillError Header :=
  match data with
  | bits :: h1 :: h0 :: w1 :: w0 :: count :: rest =>
    if bits ≠ 8 ∨ (count ≠ 1 ∧ count ≠ 3 ∧ count ≠ 4) then .error .malformed
    else
      match checkProfiles h.profiles, readComponents rest with
      | .ok _, .ok components =>
        .ok { h with frame := some ⟨marker, Bytes.ofBE [w1, w0], Bytes.ofBE [h1, h0], components⟩ }
      | .error e, _ | _, .error e => .error e
  | _ => .error .shortField

/-- Is this the marker of a frame segment? -/
def isFrameMarker (m : UInt8) : Bool :=
  (0xC0 ≤ m && m ≤ 0xCF && m ≠ 0xC4 && m ≠ 0xC8 && m ≠ 0xCC) || m = 0xDE

/-- Does the marker stand alone, without a segment? -/
def isBareMarker (m : UInt8) : Bool := m = 0xC8 || (0xD0 ≤ m && m ≤ 0xD9) || (0xF0 ≤ m && m ≤ 0xFD)

/-- The effect of one segment. -/
def Header.add (h : Header) (marker : UInt8) (data : Bytes) : Except StillError Header :=
  if isFrameMarker marker then h.addFrame marker data
  else if marker = 0xC4 then .ok { h with codes := readCodes h.codes data }
  else if marker = 0xDB then
    (readTables h.quantization data).map fun tables => { h with quantization := tables }
  else if marker = 0xDD then .ok { h with restart := Bytes.ofBE (data.take 2) }
  else if marker = 0xE0 then
    if jfifMark.isPrefixOf data then h.addJfif data else .ok h
  else if marker = 0xE1 then .ok (h.addMetadata data)
  else if marker = 0xE2 then
    if profileMark.isPrefixOf data then .ok { h with profiles := data :: h.profiles } else .ok h
  else if marker = 0xEE then
    if adobeMark.isPrefixOf data then
      if data.length < 7 then .error .shortField
      else .ok { h with transform := data[11]? <|> h.transform }
    else .ok h
  else .ok h

/-- A JPEG up to its first scan. -/
structure File where
  header : Header
  frame : Frame
  /-- The header of the first scan. -/
  scan : Bytes
  /-- The bytes behind the header of the first scan. -/
  coded : Bytes

/-- A segment: its length, which counts the two bytes of the length, and its data. -/
def readSegment (bs : Bytes) : Except StillError (Bytes × Bytes) :=
  match Bytes.takeExact 2 bs with
  | none => .error .shortField
  | some (length, rest) =>
    match Bytes.takeExact (Bytes.ofBE length - 2) rest with
    | none => .error .broken
    | some r => .ok r

theorem length_of_readSegment {bs data rest : Bytes} (h : readSegment bs = .ok (data, rest)) :
    rest.length < bs.length := by
  unfold readSegment at h
  split at h
  · cases h
  rename_i h1
  split at h
  · cases h
  · rename_i h2
    cases h
    have := Bytes.length_of_takeExact h1
    have := Bytes.length_of_takeExact h2
    omega

/-- Walks over the segments up to the first scan. Bytes in front of a marker are skipped, and so are
repeated bytes `0xFF`. -/
def walk (h : Header) (bs : Bytes) : Except StillError (Header × Bytes × Bytes) :=
  match bs with
  | [] => .error .malformed
  | b :: rest =>
    if b ≠ 0xFF then walk h rest
    else
      match rest with
      | [] => .error .shortField
      | m :: rest =>
        if m = 0xFF then walk h (m :: rest)
        else if m = 0 then walk h rest
        else if m < 0xC0 then .error .malformed
        else if isBareMarker m then walk h rest
        else
          match _hs : readSegment rest with
          | .error e => .error e
          | .ok (data, rest') =>
            if m = 0xDA then .ok (h, data, rest')
            else
              match h.add m data with
              | .error e => .error e
              | .ok h => walk h rest'
termination_by bs.length
decreasing_by
  · simp
  · simp
  · simp only [List.length_cons]; omega
  · simp only [List.length_cons]; omega
  · have := length_of_readSegment _hs
    simp only [List.length_cons]
    omega

/-- An EXIF block that cannot be read is forgotten, with the XMP text, when the resolution of the
picture is looked up in it; this happens when the file itself gives no density. -/
def Header.settle (h : Header) : Header :=
  match h.exif with
  | none => h
  | some block =>
    if h.hasDensity ∨ (Exif.readBlock block).isOk then h
    else { h with exif := none, xmp := none }

/-- Opens the file; its first two bytes are the start marker. -/
def File.open (bs : Bytes) : Except StillError File :=
  match walk {} (bs.drop 2) with
  | .error e => .error e.whileOpening
  | .ok (header, scan, coded) =>
    match header.frame with
    | none => .error .unidentified
    | some frame =>
      if frame.width = 0 ∨ frame.height = 0 then .error .unidentified
      else .ok ⟨header.settle, frame, scan, coded⟩

/-- The orientation tag, unless the EXIF block cannot be read. -/
def File.orientation (f : File) : Except StillError Nat :=
  (Exif.readBlock (f.header.exif.getD [])).map fun d => Exif.orientation d f.header.xmp

end Portrait.Jpeg
