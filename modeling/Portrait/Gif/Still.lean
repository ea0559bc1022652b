import Portrait.Gif.Container
import Portrait.Gif.Lzw.Decoder
import Portrait.Raster.Interlace
import Portrait.Raster.Pixel

/-!
# The first frame of a GIF

A lenient reader: it skips unknown bytes between blocks, looks only for the first image, and makes
the picture as large as the canvas and that image need.

* `Still.open` — everything in front of the pixels of the first image.
* `Still.load` — the first image on its canvas.
-/

namespace Portrait.Gif

/-- A GIF up to the pixels of its first image. -/
structure Still where
  width : Nat
  height : Nat
  left : Nat
  top : Nat
  frameWidth : Nat
  frameHeight : Nat
  interlaced : Bool
  /-- The colours, none if indices are levels of gray. -/
  palette : Option Bytes
  transparency : Option UInt8
  minCodeSize : UInt8
  coded : Bytes
  deriving Repr

/-- A sub-block, cut short by the end of the data; `none` for a terminator. -/
def subBlock? : Bytes → Option (Bytes × Bytes)
  | [] => none
  | size :: rest => if size = 0 then none else some (rest.take size.toNat, rest.drop size.toNat)

theorem length_of_subBlock? {bs block rest : Bytes} (h : subBlock? bs = some (block, rest)) :
    rest.length < bs.length := by
  cases bs with
  | nil => simp [subBlock?] at h
  | cons size tl =>
    simp only [subBlock?] at h
    split at h
    · simp at h
    · simp only [Option.some.injEq, Prod.mk.injEq] at h
      rw [← h.2]
      simp only [List.length_drop, List.length_cons]
      omega

/-- What follows a chain of sub-blocks. An empty block at the end of the data ends the chain. -/
def skipSubBlocks (bs : Bytes) : Bytes :=
  match _h : subBlock? bs with
  | none => bs.drop 1
  | some (block, rest) => if block = [] then rest else skipSubBlocks rest
termination_by bs.length
decreasing_by exact length_of_subBlock? _h

theorem length_skipSubBlocks_le (bs : Bytes) : (skipSubBlocks bs).length ≤ bs.length := by
  fun_induction skipSubBlocks bs with
  | case1 => simp
  | case2 =>
    rename_i h
    exact Nat.le_of_lt (length_of_subBlock? h)
  | case3 =>
    rename_i h _ ih
    exact Nat.le_trans ih (Nat.le_of_lt (length_of_subBlock? h))

/-- The transparent index in a graphic control block, if it gives one. -/
def controlIndex (block : Bytes) : Except StillError (Option UInt8) :=
  match block with
  | packed :: _lo :: _hi :: rest =>
    if packed.toNat % 2 = 0 then .ok none
    else
      match rest with
      | index :: _ => .ok (some index)
      | [] => .error .malformed
  | _ => .error .malformed

/-- The label of a comment. -/
def commentLabel : UInt8 := 0xFE

/-- What follows the sub-blocks of an extension whose first block has been read, or is missing. A
chain that has ended is followed once more, except in a comment. -/
def skipExtension (label : UInt8) (block : Option Bytes) (bs : Bytes) : Bytes :=
  match block with
  | none => if label = commentLabel then bs else skipSubBlocks bs
  | some block =>
    if label = commentLabel ∧ block = [] then bs
    else if label = applicationLabel ∧ loopApplication.isPrefixOf block then
      match subBlock? bs with
      | none => skipSubBlocks (bs.drop 1)
      | some (_, rest) => skipSubBlocks rest
    else skipSubBlocks bs

theorem length_skipExtension_le (label : UInt8) (block : Option Bytes) (bs : Bytes) :
    (skipExtension label block bs).length ≤ bs.length := by
  have hskip (l : Bytes) := length_skipSubBlocks_le l
  unfold skipExtension
  split
  · split
    · exact Nat.le_refl _
    · exact hskip bs
  · split
    · exact Nat.le_refl _
    · split
      · split
        · have := hskip (bs.drop 1)
          simp only [List.length_drop] at this
          omega
        · rename_i h
          have := length_of_subBlock? h
          exact Nat.le_trans (hskip _) (Nat.le_of_lt this)
      · exact hskip bs

/-- The transparent index in force after an extension. -/
def indexAfter (transparency : Option UInt8) (label : UInt8) (block : Option Bytes) :
    Except StillError (Option UInt8) :=
  match block with
  | none => .ok transparency
  | some block =>
    if label = graphicControlLabel then (controlIndex block).map (· <|> transparency)
    else .ok transparency

/-- The first sub-block of an extension, and what follows it or the terminator in its place. -/
def firstBlock (bs : Bytes) : Option Bytes × Bytes :=
  match subBlock? bs with
  | none => (none, bs.drop 1)
  | some (block, rest) => (some block, rest)

theorem length_firstBlock_le (bs : Bytes) : (firstBlock bs).2.length ≤ bs.length := by
  unfold firstBlock
  split
  · simp
  · rename_i h
    exact Nat.le_of_lt (length_of_subBlock? h)

/-- Is this anything but a ramp of gray levels? Only then do indices need a palette. -/
def needsPalette (palette : Bytes) : Bool := go 0 palette
where
  /-- Looks at the entries from number `i` on. -/
  go (i : Nat) : Bytes → Bool
    | r :: g :: b :: rest =>
      if r.toNat = i ∧ g = r ∧ b = r then go (i + 1) rest else true
    | _ => false

/-- The first image after its introducer. -/
def readFirst (width height : Nat) (globalPalette : Option Bytes) (transparency : Option UInt8)
    (bs : Bytes) : Except StillError Still :=
  match bs with
  | l0 :: l1 :: t0 :: t1 :: w0 :: w1 :: h0 :: h1 :: packed :: rest =>
    let left := Bytes.ofLE [l0, l1]
    let top := Bytes.ofLE [t0, t1]
    let frameWidth := Bytes.ofLE [w0, w1]
    let frameHeight := Bytes.ofLE [h0, h1]
    let width' := max width (left + frameWidth)
    let height' := max height (top + frameHeight)
    if (width < left + frameWidth ∨ height < top + frameHeight) ∧
        pixelLimit < max 1 width' * max 1 height' then .error .tooManyPixels
    else
      let size := if packed &&& colorTableFlag = 0 then 0 else ColorTable.byteSize packed
      let own := rest.take size
      let palette :=
        if size = 0 then globalPalette else if needsPalette own then some own else none
      match rest.drop size with
      | [] => .error .malformed
      | minCodeSize :: coded =>
        .ok ⟨width', height', left, top, frameWidth, frameHeight, packed &&& interlaceFlag ≠ 0,
          palette, transparency, minCodeSize, coded⟩
  | _ => .error .shortField

/-- Looks for the first image. -/
def findFirst (width height : Nat) (globalPalette : Option Bytes) (transparency : Option UInt8)
    (bs : Bytes) : Except StillError Still :=
  match bs with
  | [] => .error .malformed
  | b :: rest =>
    if b = trailer then .error .malformed
    else if b = extensionIntroducer then
      match rest with
      | [] => .error .malformed
      | label :: rest =>
        match indexAfter transparency label (firstBlock rest).1 with
        | .error e => .error e
        | .ok transparency =>
          findFirst width height globalPalette transparency
            (skipExtension label (firstBlock rest).1 (firstBlock rest).2)
    else if b = imageIntroducer then readFirst width height globalPalette transparency rest
    else findFirst width height globalPalette transparency rest
termination_by bs.length
decreasing_by
  · have := length_skipExtension_le label (firstBlock rest).1 (firstBlock rest).2
    have := length_firstBlock_le rest
    simp only [List.length_cons]
    omega
  · simp

/-- Opens the file; its first six bytes are the signature. -/
def Still.open (bs : Bytes) : Except StillError Still :=
  match bs.drop 6 with
  | w0 :: w1 :: h0 :: h1 :: packed :: rest =>
    let width := Bytes.ofLE [w0, w1]
    let height := Bytes.ofLE [h0, h1]
    let rest := rest.drop 2
    let size := if packed &&& colorTableFlag = 0 then 0 else ColorTable.byteSize packed
    let own := rest.take size
    let palette := if size ≠ 0 ∧ needsPalette own then some own else none
    match findFirst width height palette none (rest.drop size) with
    | .error e => .error e.whileOpening
    | .ok s => if s.width = 0 ∨ s.height = 0 then .error .unidentified else .ok s
  | _ => .error .unidentified

/-- The data of complete sub-blocks; a terminator does not end it. -/
def blockData (bs : Bytes) : Bytes :=
  match bs with
  | [] => []
  | size :: rest =>
    if (rest.take size.toNat).length = size.toNat then
      rest.take size.toNat ++ blockData (rest.drop size.toNat)
    else []
termination_by bs.length
decreasing_by simp only [List.length_cons, List.length_drop]; omega

/-- The colour of an index. -/
def Still.color (s : Still) (entries : Array (UInt8 × UInt8 × UInt8)) (i : UInt8) : Rgba :=
  let alpha : UInt8 := if s.transparency = some i then 0 else 255
  match s.palette with
  | none => ⟨i, i, i, alpha⟩
  | some _ =>
    let (r, g, b) := entries.getD i.toNat (0, 0, 0)
    ⟨r, g, b, alpha⟩

/-- The first image on its canvas, which is transparent around it if the image has a transparent
index. A frame that ends where it starts, in the upper left corner, covers the whole canvas. -/
def Still.load (s : Still) : Except StillError (Raster Rgba) :=
  let covers := s.left + s.frameWidth = 0
  let w := if covers then s.width else s.frameWidth
  let h := if covers then s.height else s.frameHeight
  let left := if covers then 0 else s.left
  let top := if covers then 0 else s.top
  if w = 0 ∨ h = 0 then .error .badValue
  else
    match Lzw.decode? s.minCodeSize.toNat (w * h) (blockData s.coded) with
    | none => .error .broken
    | some cells =>
      let frame := Raster.deserialize w h s.interlaced cells 0
      let entries := (ColorTable.triplets (s.palette.getD [])).toArray
      .ok (Raster.ofFn s.width s.height fun x y =>
        let index :=
          if left ≤ x ∧ top ≤ y then
            (frame.get? (x - left) (y - top)).getD (s.transparency.getD 0)
          else s.transparency.getD 0
        s.color entries index)

end Portrait.Gif
