import Portrait.Raster.Pixel
import Portrait.Tiff.Directory

/-!
# Orientation tags

Cameras store pixels as the sensor delivers them and note in an EXIF tag how the camera was held. An
EXIF block is a TIFF structure, possibly behind one or more marks `Exif`; a picture may also carry
the orientation in an XMP text.

* `Exif.readBlock` — the tags of a block, unless it is not a TIFF structure.
* `Exif.orientation` — the orientation, 0 when there is none or when it makes no sense.
* `Exif.textOrientation?` — the orientation in an XMP text.
-/

namespace Portrait.Exif

open Tiff (Directory Header)

/-- The number of the orientation tag. -/
def orientationTag : Nat := 274

/-- The letters `Exif` and two zero bytes. -/
def mark : Bytes := [0x45, 0x78, 0x69, 0x66, 0, 0]

/-- The block without the marks in front of it. -/
def stripMarks (bs : Bytes) : Bytes :=
  if _h : mark.isPrefixOf bs then stripMarks (bs.drop 6) else bs
termination_by bs.length
decreasing_by
  have : mark.length ≤ bs.length := (List.isPrefixOf_iff_prefix.1 _h).length_le
  have : mark.length = 6 := rfl
  simp only [List.length_drop]
  omega

/-- The tags of an EXIF block; an empty block has none. -/
def readBlock (block : Bytes) : Except StillError Directory :=
  match stripMarks block with
  | [] => .ok {}
  | bs =>
    match Tiff.ByteOrder.ofMark? (bs.take 4), Header.read? bs with
    | none, _ => .error .malformed
    | some _, none => .error .shortField
    | some _, some h => .ok (Directory.read h.order bs h.offset)

/-- The name `tiff:Orientation`. -/
def textKey : Bytes := Bytes.ofString "tiff:Orientation"

/-- The digit after `="` or `>`. -/
def digitAfterKey? : Bytes → Option Nat
  | 0x3D :: 0x22 :: d :: _ => if 0x30 ≤ d ∧ d ≤ 0x39 then some (d.toNat - 0x30) else none
  | 0x3E :: d :: _ => if 0x30 ≤ d ∧ d ≤ 0x39 then some (d.toNat - 0x30) else none
  | _ => none

/-- The first orientation in an XMP text: the name of the property, then its digit as an attribute
or as the content of an element. -/
def textOrientation? : Bytes → Option Nat
  | [] => none
  | b :: bs =>
    let here := if textKey.isPrefixOf (b :: bs) then digitAfterKey? ((b :: bs).drop textKey.length)
      else none
    here <|> textOrientation? bs

/-- Orientations are the numbers from 1 to 8. -/
def valid (n : Int) : Nat := if 1 ≤ n ∧ n ≤ 8 then n.toNat else 0

/-- The orientation that tags and XMP text give; the text counts only where there is no tag. -/
def orientation (d : Directory) (text : Option Bytes) : Nat :=
  match d.value? orientationTag with
  | some (.numbers (n :: _)) => valid n
  | some _ => 0
  | none =>
    match text.bind textOrientation? with
    | some n => valid n
    | none => 0

end Portrait.Exif
