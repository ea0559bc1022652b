import Portrait.Proofs.Gif.Gate
import Portrait.Proofs.Gif.SizeField

/-!
# Compressed frames in new files

Neither decoding nor encoding looks into the pixel data of a frame: a decoder puts the sub-blocks of
each frame into a file of its own, with the palette as global color table, and an encoder puts them
behind new headers, with the palette as local one. Whatever the data, the parser finds the frame again
in either place.

* `Splice` — a frame, and where and how it is put into a file.
* `Splice.blocks?`, `Splice.coded` — how it is written, and what is read.
* `scan_blocks?`, `scan_splices` — the blocks of one frame, and of several, are read back.
* `CodedFrame.layout` — the parts of a file with one frame.
* `CodedFrame.standalone_eq`, `CodedFrame.parse_standalone` — this is what is written, and the frame
  is read back.
* `writable_of_parse` — a frame that was read can be written.
* `decode_standalone` — a frame has the pixels that a reader of pictures finds in a file with that
  frame.

Main statement: `parse_spliced`.
-/

set_option autoImplicit false

namespace Portrait.Gif

theorem fitsField_natCast {n : Nat} (h : n < 65536) : FitsField n :=
  ⟨Int.natCast_nonneg n, Int.ofNat_lt.2 h⟩

/-! ## Frames with color tables of their own -/

/-- A frame, and the offset and the control values with which it is put into a file. -/
structure Splice where
  frame : CodedFrame
  left : Int
  top : Int
  delay : Int
  disposal : Int
  transparency : Option Int

/-- A frame that can stand in a file: its sides and its palette fit, and its data are sub-blocks. -/
structure CodedFrame.Writable (f : CodedFrame) : Prop where
  width : 0 < f.width ∧ f.width < 65536
  height : 0 < f.height ∧ f.height < 65536
  palette : ∃ n, ColorTable.Whole f.palette n
  chunks : ∀ c ∈ f.chunks, SubBlocks.WellFormed c

namespace Splice

/-- All numbers fit their fields. -/
structure Fits (s : Splice) : Prop where
  frame : s.frame.Writable
  left : FitsField s.left
  top : FitsField s.top
  delay : FitsField s.delay
  disposal : 0 ≤ s.disposal ∧ s.disposal < 8
  transparency : FitsByte s.transparency

/-- The blocks of a frame: its control values, and the image with a color table of its own. -/
def blocks? (s : Splice) : Option Bytes :=
  match controlBlock s.delay s.disposal s.transparency, imageBlock s.frame s.left s.top true with
  | some control, some image => some (control ++ image)
  | _, _ => none

/-- The frame in its place, with its palette filled up to a color table. -/
def coded (s : Splice) : CodedFrame :=
  { s.frame with
    left := s.left.toNat
    top := s.top.toNat
    palette := ColorTable.pad s.frame.palette
    control :=
      { delay := s.delay.toNat
        disposal := s.disposal.toNat
        transparency := s.transparency.map fun i => UInt8.ofNat i.toNat } }

variable {s : Splice} {n : Nat}

/-- It does not matter to what is written whether the palette has been filled up before. -/
theorem imageBlock_coded (h : ColorTable.Whole s.frame.palette n) (left top : Int) :
    imageBlock s.coded left top true = imageBlock s.frame left top true := by
  have hpacked : imagePacked s.coded true = imagePacked s.frame true := by
    rw [imagePacked, imagePacked, coded, (ColorTable.full_pad h).sizeBits_eq]
  have hpad : ColorTable.pad s.coded.palette = ColorTable.pad s.frame.palette :=
    (ColorTable.full_pad h).pad_eq
  have hwidth : u16Field s.coded.width = u16Field s.frame.width := rfl
  have hheight : u16Field s.coded.height = u16Field s.frame.height := rfl
  have hdata : s.coded.minCodeSize :: s.coded.data = s.frame.minCodeSize :: s.frame.data := rfl
  simp only [imageBlock, hpacked, hpad, hwidth, hheight, hdata]

/-- The blocks of a frame give the frame. -/
theorem scan_blocks? (h : s.Fits) :
    ∃ block, s.blocks? = some block ∧ ∀ globalPalette st rest,
      scan globalPalette st (block ++ rest) =
        scan globalPalette { st with control := {}, frames := s.coded :: st.frames } rest := by
  obtain ⟨n, hn⟩ := h.frame.palette
  obtain ⟨control, hcontrol, hscanControl⟩ :=
    scan_controlBlock h.delay h.disposal h.transparency
  obtain ⟨image, himage, hscanImage⟩ :=
    scan_imageBlock (f := s.coded) (ColorTable.full_pad hn) h.left h.top
      (fitsField_natCast h.frame.width.2) (fitsField_natCast h.frame.height.2)
      h.frame.width.1 h.frame.height.1 h.frame.chunks
  rw [imageBlock_coded hn] at himage
  refine ⟨control ++ image, by simp only [blocks?, hcontrol, himage], ?_⟩
  intro globalPalette st rest
  rw [List.append_assoc, hscanControl, hscanImage]
  rfl

/-- The blocks of several frames give all of them, in order. -/
theorem scan_splices {splices : List Splice} (h : ∀ s ∈ splices, s.Fits) :
    ∃ blocks, splices.mapM blocks? = some blocks ∧ ∀ globalPalette read rest,
      scan globalPalette { frames := read } (blocks.flatten ++ rest) =
        scan globalPalette { frames := (splices.map coded).reverse ++ read } rest := by
  induction splices with
  | nil => exact ⟨[], rfl, fun globalPalette read rest => rfl⟩
  | cons s splices ih =>
    obtain ⟨block, hblock, hscan⟩ := scan_blocks? (h s (by simp))
    obtain ⟨blocks, hblocks, hscans⟩ := ih fun t ht => h t (List.mem_cons_of_mem _ ht)
    refine ⟨block :: blocks, by simp [hblock, hblocks], fun globalPalette read rest => ?_⟩
    rw [List.flatten_cons, List.append_assoc, hscan, hscans, List.map_cons, List.reverse_cons,
      List.append_assoc]
    rfl

end Splice

/-! ## Files with one frame -/

namespace CodedFrame

/-- The parts of a file with a frame and nothing else. -/
def layout (f : CodedFrame) : Layout where
  signature := signature89
  width := UInt16.ofNat f.width
  height := UInt16.ofNat f.height
  packed := colorTableFlag ||| UInt8.ofNat (ColorTable.sizeBits f.palette)
  background := 0
  aspect := 0
  table := f.palette
  blocks := [.image ⟨0, 0, UInt16.ofNat f.width, UInt16.ofNat f.height, imagePacked f false⟩ []
    f.minCodeSize f.chunks]
  ending := [trailer]

/-- A file with a frame and nothing else, as it is read. -/
def alone (f : CodedFrame) : Container where
  width := f.width
  height := f.height
  backgroundIndex := 0
  loopCount := none
  frames := [{ f with left := 0, top := 0, control := {} }]

/-- What a reader sees in the packed byte of an image without a local color table. -/
theorem imagePacked_bits (f : CodedFrame) :
    imagePacked f false &&& colorTableFlag = 0 ∧
      decide (imagePacked f false &&& interlaceFlag ≠ 0) = f.interlaced := by
  simp only [imagePacked, Bool.false_eq_true, if_false]
  cases f.interlaced <;> decide

theorem toNat_side {n : Nat} (h : n < 65536) : (UInt16.ofNat n).toNat = n := by
  rw [UInt16.toNat_ofNat']
  exact Nat.mod_eq_of_lt h

theorem u16Field_side {n : Nat} (h : n < 65536) : u16Field n = some (field (UInt16.ofNat n)) := by
  have hfield : u16Field n = some (Bytes.toLE 2 (n : Int).toNat) := if_pos (fitsField_natCast h)
  rw [hfield, Int.toNat_natCast, field, toNat_side h]

variable {f : CodedFrame} {k : Nat}

theorem paletteHeader_of_fields {width height : Int} {palette w h table : Bytes}
    (hw : u16Field width = some w) (hh : u16Field height = some h)
    (htable : ColorTable.pad? palette = some table) :
    paletteHeader width height palette =
      some (signature89 ++ w ++ h ++
        [colorTableFlag ||| UInt8.ofNat (ColorTable.sizeBits palette), 0, 0] ++ table) := by
  simp only [paletteHeader, hw, hh, htable]

theorem imageBlock_of_fields {left top : Int} {l t w h : Bytes} {localPalette : Bool}
    (hl : u16Field left = some l) (ht : u16Field top = some t) (hw : u16Field f.width = some w)
    (hh : u16Field f.height = some h) :
    imageBlock f left top localPalette =
      some ([imageIntroducer] ++ l ++ t ++ w ++ h ++ [imagePacked f localPalette] ++
        (if localPalette then ColorTable.pad f.palette else []) ++ f.minCodeSize :: f.data) := by
  simp only [imageBlock, hl, ht, hw, hh]

theorem standalone_eq (hfull : ColorTable.Full f.palette k) (hwidth : f.width < 65536)
    (hheight : f.height < 65536) : f.standalone = some f.layout.bytes := by
  -- the palette fills its table, so that nothing is added to it
  have htable : ColorTable.pad? f.palette = some f.palette := by
    rw [ColorTable.pad?_eq hfull.length, hfull.pad_eq]
  have hzero : u16Field 0 = some (field 0) := rfl
  rw [standalone,
    paletteHeader_of_fields (u16Field_side hwidth) (u16Field_side hheight) htable,
    imageBlock_of_fields hzero hzero (u16Field_side hwidth) (u16Field_side hheight)]
  simp [Layout.bytes, layout, Block.bytes, Descriptor.bytes, data]

/-- The screen descriptor announces the palette. -/
theorem announces_layout (hfull : ColorTable.Full f.palette k) :
    Announces f.layout.packed f.palette := by
  obtain ⟨hflag, -, hsize⟩ := ColorTable.descriptor_bits false hfull.lt
  have hpacked : f.layout.packed = colorTableFlag ||| UInt8.ofNat k := by
    rw [layout, hfull.sizeBits_eq]
  simp only [Bool.false_eq_true, if_false, UInt8.zero_or, ← hpacked] at hflag hsize
  rw [Announces, if_neg hflag, hfull.length, ← hsize, ColorTable.byteSize_eq]

theorem legal_layout (hfull : ColorTable.Full f.palette k) (hf : f.Writable) :
    f.layout.Legal where
  signature := .inr rfl
  table := announces_layout hfull
  blocks := by
    intro b hb
    obtain rfl := List.mem_singleton.1 hb
    have hside {n : Nat} (hn : 0 < n ∧ n < 65536) : UInt16.ofNat n ≠ 0 := by
      intro hzero
      have hvalue := toNat_side hn.2
      rw [hzero, UInt16.toNat_zero] at hvalue
      omega
    exact ⟨hside hf.width, hside hf.height, (if_pos f.imagePacked_bits.1).symm,
      .inr hfull.ne_nil, hf.chunks⟩
  image := ⟨_, List.mem_singleton.2 rfl, rfl⟩
  ending := .inr ⟨[], rfl⟩

theorem container_layout (hf : f.Writable) : f.layout.container = f.alone := by
  have hwidth := toNat_side hf.width.2
  have hheight := toNat_side hf.height.2
  have hinterlaced := f.imagePacked_bits.2
  rw [Layout.container, alone]
  simp only [layout, hwidth, hheight, Block.framesAfter, Block.frame?, hinterlaced]
  rfl

/-- **A file with one frame is read as that frame**, at the origin and without control values. -/
theorem parse_standalone (hfull : ColorTable.Full f.palette k) (hf : f.Writable) :
    ∃ file, f.standalone = some file ∧ Container.parse file = .ok f.alone :=
  ⟨f.layout.bytes, standalone_eq hfull hf.width.2 hf.height.2,
    (parse_bytes (legal_layout hfull hf)).trans (congrArg _ (container_layout hf))⟩

end CodedFrame

/-! ## Frames that were read -/

/-- Every frame of a file comes from one of its images. -/
theorem Block.exists_image_of_mem_framesAfter {globalTable : Bytes} {before blocks : List Block}
    {f : CodedFrame} (h : f ∈ framesAfter globalTable before blocks) :
    ∃ b ∈ blocks, ∃ control, b.frame? globalTable control = some f := by
  induction blocks generalizing before with
  | nil => cases h
  | cons b blocks ih =>
    rw [framesAfter, List.mem_append, Option.mem_toList] at h
    rcases h with hb | hrest
    · exact ⟨b, List.mem_cons_self, _, hb⟩
    · obtain ⟨c, hc, hframe⟩ := ih hrest
      exact ⟨c, List.mem_cons_of_mem _ hc, hframe⟩

theorem wellFormed_of_parse {data : Bytes} {c : Container} (h : Container.parse data = .ok c)
    {f : CodedFrame} (hf : f ∈ c.frames) : ∀ chunk ∈ f.chunks, SubBlocks.WellFormed chunk := by
  obtain ⟨l, hlegal, rfl⟩ := exists_layout_of_parse h
  rw [parse_bytes hlegal] at h
  cases h
  obtain ⟨b, hb, control, hframe⟩ := Block.exists_image_of_mem_framesAfter hf
  have hblock := hlegal.blocks b hb
  cases b with
  | extension label chunks => cases hframe
  | image d table minCodeSize chunks =>
    cases hframe
    exact hblock.2.2.2.2

/-- A frame that was read can be written. -/
theorem writable_of_parse {data : Bytes} {c : Container} (h : Container.parse data = .ok c)
    {f : CodedFrame} (hf : f ∈ c.frames) : f.Writable := by
  have hlegal := (legal_of_parse h).frames f hf
  obtain ⟨k, hfull⟩ := hlegal.palette
  exact
    { width := hlegal.width
      height := hlegal.height
      palette := ⟨_, hfull.whole⟩
      chunks := wellFormed_of_parse h hf }

/-! ## Decoding through a file -/

section Reader

variable {f : CodedFrame} {k : Nat}

/-- The reader of pictures collects the data of all sub-blocks; the trailer is not mistaken for one
more. -/
theorem blockData_encode {chunks : List Bytes} (h : ∀ c ∈ chunks, SubBlocks.WellFormed c) :
    blockData (SubBlocks.encode chunks ++ [trailer]) = chunks.flatten := by
  induction chunks with
  | nil => decide +kernel
  | cons c chunks ih =>
    have hc := h c (by simp)
    rw [SubBlocks.encode, List.cons_append, List.append_assoc]
    unfold blockData
    rw [SubBlocks.toNat_size hc, List.take_left, List.drop_left, if_pos rfl,
      ih fun d hd => h d (List.mem_cons_of_mem _ hd), List.flatten_cons]

/-- What a reader of pictures finds in a file with one frame. -/
def CodedFrame.still (f : CodedFrame) : Still where
  width := f.width
  height := f.height
  left := 0
  top := 0
  frameWidth := f.width
  frameHeight := f.height
  interlaced := f.interlaced
  palette := if needsPalette f.palette then some f.palette else none
  transparency := none
  minCodeSize := f.minCodeSize
  coded := f.data ++ [trailer]

theorem findFirst_layout (hf : f.Writable) (palette : Option Bytes) :
    findFirst f.width f.height palette none
        (f.layout.blocks.flatMap Block.bytes ++ f.layout.ending) =
      .ok { f.still with palette := palette } := by
  obtain ⟨w0, w1, hw, hwidth⟩ := field_eq (UInt16.ofNat f.width)
  obtain ⟨h0, h1, hh, hheight⟩ := field_eq (UInt16.ofNat f.height)
  rw [CodedFrame.toNat_side hf.width.2] at hwidth
  rw [CodedFrame.toNat_side hf.height.2] at hheight
  obtain ⟨hflag, hinterlaced⟩ := f.imagePacked_bits
  have hbytes : f.layout.blocks.flatMap Block.bytes ++ f.layout.ending =
      imageIntroducer :: 0 :: 0 :: 0 :: 0 :: w0 :: w1 :: h0 :: h1 :: imagePacked f false ::
        f.minCodeSize :: (f.data ++ [trailer]) := by
    have hzero : field 0 = [0, 0] := rfl
    simp [CodedFrame.layout, Block.bytes, Descriptor.bytes, CodedFrame.data, hw, hh, hzero]
  have hcorner : Bytes.ofLE [0, 0] = 0 := rfl
  rw [hbytes]
  unfold findFirst
  rw [if_neg (by decide), if_neg (by decide), if_pos rfl]
  unfold readFirst
  simp only [hcorner, hwidth, hheight, hflag, hinterlaced, if_true, Nat.zero_add, Nat.max_self,
    Nat.lt_irrefl, or_self, false_and, if_false, List.drop_zero]
  rfl

/-- **A file with one frame is opened at that frame.** -/
theorem open_layout (hfull : ColorTable.Full f.palette k) (hf : f.Writable) :
    Still.open f.layout.bytes = .ok f.still := by
  obtain ⟨w0, w1, hw, hwidth⟩ := field_eq f.layout.width
  obtain ⟨h0, h1, hh, hheight⟩ := field_eq f.layout.height
  have hlegal := f.legal_layout hfull hf
  have hdrop := drop_signature hlegal
  simp only [hw, hh, List.cons_append, List.nil_append] at hdrop
  have hw' : Bytes.ofLE [w0, w1] = f.width := hwidth.trans (CodedFrame.toNat_side hf.width.2)
  have hh' : Bytes.ofLE [h0, h1] = f.height := hheight.trans (CodedFrame.toNat_side hf.height.2)
  have hsize : (if f.layout.packed &&& colorTableFlag = 0 then 0
      else ColorTable.byteSize f.layout.packed) = f.layout.table.length := by
    rw [ColorTable.byteSize_eq]
    exact hlegal.table.symm
  have hlength : f.layout.table.length ≠ 0 := Nat.ne_of_gt (List.length_pos_iff.2 hfull.ne_nil)
  have hsides : ¬ (f.still.width = 0 ∨ f.still.height = 0) :=
    not_or.2 ⟨Nat.ne_of_gt hf.width.1, Nat.ne_of_gt hf.height.1⟩
  unfold Still.open
  simp only [hdrop, hw', hh', List.drop_succ_cons, List.drop_zero, hsize, List.take_left,
    List.drop_left, findFirst_layout hf, if_neg hsides, ne_eq, hlength, not_false_eq_true, true_and]
  rfl

/-- **A frame is decoded through a file of its own**: its indices are what the reader of pictures
finds in a file with that frame. -/
theorem decode_standalone (hfull : ColorTable.Full f.palette k) (hf : f.Writable) :
    ∃ file s, f.standalone = some file ∧ Still.open file = .ok s ∧
      f.decode =
        if pixelLimit < s.width * s.height then .error .tooManyPixels
        else
          match Lzw.decode? s.minCodeSize.toNat (s.frameWidth * s.frameHeight)
            (blockData s.coded) with
          | none => .error (.format .undecodableFrame)
          | some cells =>
            .ok (Raster.deserialize s.frameWidth s.frameHeight s.interlaced cells 0) := by
  have hdata : blockData f.still.coded = f.chunks.flatten := blockData_encode hf.chunks
  refine ⟨f.layout.bytes, f.still, f.standalone_eq hfull hf.width.2 hf.height.2,
    open_layout hfull hf, ?_⟩
  rw [hdata]
  rfl

end Reader

/-! ## Frames in new files -/

/-- Blocks behind a screen descriptor that announces no color table. -/
theorem parse_screen {width height : UInt16} {packed background aspect : UInt8} {bs : Bytes}
    {st : Scan} (hpacked : packed &&& colorTableFlag = 0) (hscan : scan [] {} bs = .ok st)
    (hne : st.frames ≠ []) :
    Container.parse (signature89 ++ field width ++ field height ++ [packed, background, aspect] ++
        bs) =
      .ok {
        width := width.toNat
        height := height.toNat
        backgroundIndex := background
        loopCount := st.loopCount
        frames := st.frames.reverse } := by
  have hparse := parse_head (l := ⟨signature89, width, height, packed, background, aspect, [], [], []⟩)
    bs (.inr rfl) (if_pos hpacked).symm
  simp only [Layout.head, List.append_nil, hscan] at hparse
  exact hparse.trans (if_neg hne)

/-- **Frames are found again in new files**: any number of them, each with a color table of its own,
behind a screen descriptor without one, and each frame of a file that was read alone in a file with a
global color table. -/
theorem parse_spliced :
    (∀ (width height : UInt16) (packed background aspect : UInt8) (splices : List Splice),
      packed &&& colorTableFlag = 0 → splices ≠ [] → (∀ s ∈ splices, s.Fits) →
        ∃ blocks, splices.mapM Splice.blocks? = some blocks ∧
          Container.parse (signature89 ++ field width ++ field height ++
              [packed, background, aspect] ++ (blocks.flatten ++ [trailer])) =
            .ok {
              width := width.toNat
              height := height.toNat
              backgroundIndex := background
              loopCount := none
              frames := splices.map Splice.coded }) ∧
    ∀ (data : Bytes) (c : Container), Container.parse data = .ok c → ∀ f ∈ c.frames,
      ∃ file, f.standalone = some file ∧ Container.parse file = .ok f.alone := by
  refine ⟨fun width height packed background aspect splices hpacked hne hfits => ?_,
    fun data c hparse f hf => ?_⟩
  · obtain ⟨blocks, hblocks, hscan⟩ := Splice.scan_splices hfits
    have hread : scan [] {} (blocks.flatten ++ [trailer]) =
        .ok { frames := (splices.map Splice.coded).reverse } := by
      rw [hscan, List.append_nil]
      exact scan_ending _ (.inr ⟨[], rfl⟩)
    refine ⟨blocks, hblocks, (parse_screen hpacked hread ?_).trans ?_⟩
    · simpa using hne
    · simp only [List.reverse_reverse]
  · have hwritable := writable_of_parse hparse hf
    obtain ⟨k, hfull⟩ := ((legal_of_parse hparse).frames f hf).palette
    exact f.parse_standalone hfull hwritable

/-- A tall frame with three colours, whose data are no pixels. -/
def ribbon (interlaced : Bool) : CodedFrame where
  left := 0
  top := 0
  width := 3
  height := 65535
  interlaced := interlaced
  palette := [1, 2, 3, 4, 5, 6, 7, 8, 9]
  minCodeSize := 200
  chunks := [[trailer], [imageIntroducer, 0, 0, 255]]
  control := {}

theorem writable_ribbon (interlaced : Bool) : (ribbon interlaced).Writable where
  width := (by decide : 0 < 3 ∧ 3 < 65536)
  height := (by decide : 0 < 65535 ∧ 65535 < 65536)
  palette := ⟨3, by decide, by decide, rfl⟩
  chunks := by
    intro c hc
    simp only [ribbon, List.mem_cons, List.not_mem_nil, or_false] at hc
    rcases hc with rfl | rfl
    · exact ⟨by decide, by decide⟩
    · exact ⟨by decide, by decide⟩

/-- Two frames, one of them transparent and far from the origin. -/
def ribbons : List Splice :=
  [⟨ribbon true, 65535, 1, 65535, 7, some 255⟩, ⟨ribbon false, 0, 0, 0, 0, none⟩]

/-- The hypotheses of `parse_spliced` hold of two frames, and of the file that they give. -/
theorem ribbons_spliced :
    (∀ s ∈ ribbons, s.Fits) ∧
      ∃ file c, Container.parse file = .ok c ∧ c.frames = ribbons.map Splice.coded ∧
        c.frames.map (·.palette.length) = [12, 12] ∧
        ∀ f ∈ c.frames, ∃ own, f.standalone = some own ∧ Container.parse own = .ok f.alone := by
  have hfits : ∀ s ∈ ribbons, s.Fits := by
    intro s hs
    simp only [ribbons, List.mem_cons, List.not_mem_nil, or_false] at hs
    rcases hs with rfl | rfl
    · exact ⟨writable_ribbon true, ⟨by decide, by decide⟩, ⟨by decide, by decide⟩,
        ⟨by decide, by decide⟩, by decide, by rintro i ⟨⟩; decide⟩
    · exact ⟨writable_ribbon false, ⟨by decide, by decide⟩, ⟨by decide, by decide⟩,
        ⟨by decide, by decide⟩, by decide, by rintro i ⟨⟩⟩
  obtain ⟨blocks, -, hparse⟩ := parse_spliced.1 1 1 0 9 0 ribbons rfl (by decide) hfits
  exact ⟨hfits, _, _, hparse, rfl, by decide, parse_spliced.2 _ _ hparse⟩

end Portrait.Gif
