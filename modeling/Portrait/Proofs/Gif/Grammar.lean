import Portrait.Proofs.Gif.Blocks

/-!
# The grammar of GIF containers

A GIF is a signature, a screen descriptor, a color table if the descriptor announces one, and a
sequence of blocks; it ends with the last block, or with a trailer that anything may follow. This
module writes the format down as data, says what its parts look like in bytes and what the whole
means, and shows that the parser accepts nothing else and understands it in this way.

* `Block`, `Layout` — what a file consists of.
* `Block.bytes`, `Layout.bytes` — how it is written.
* `Block.Legal`, `Layout.Legal` — the conditions of the format that its shape does not imply.
* `Layout.container` — what it means: looking back from an image to the one before, the first
  graphic control extension is in force; looking back from the end, the first loop extension is.
* `scan_blocks` — blocks are read as what they mean.
* `isBlocks_of_scan` — whatever is read consists of blocks.
* `parse_head` — behind what stands in front of the blocks, parsing is reading blocks.

Main statement: `parse_eq_ok_iff`.
-/

set_option autoImplicit false

namespace Portrait.Gif

/-! ## Files in parts -/

/-- A number as it stands in a file. -/
def field (n : UInt16) : Bytes := Bytes.toLE 2 n.toNat

/-- The place and size of an image on the canvas. -/
structure Descriptor where
  left : UInt16
  top : UInt16
  width : UInt16
  height : UInt16
  packed : UInt8

/-- A block of a file. An image without a color table of its own has an empty one. -/
inductive Block where
  | extension (label : UInt8) (chunks : List Bytes)
  | image (descriptor : Descriptor) (table : Bytes) (minCodeSize : UInt8) (chunks : List Bytes)

/-- A file in its parts. `ending` is what follows the last block. -/
structure Layout where
  signature : Bytes
  width : UInt16
  height : UInt16
  packed : UInt8
  background : UInt8
  aspect : UInt8
  table : Bytes
  blocks : List Block
  ending : Bytes

def Descriptor.bytes (d : Descriptor) : Bytes :=
  field d.left ++ field d.top ++ field d.width ++ field d.height ++ [d.packed]

def Block.bytes : Block → Bytes
  | extension label chunks => extensionIntroducer :: label :: SubBlocks.encode chunks
  | image d table minCodeSize chunks =>
    imageIntroducer :: (d.bytes ++ table ++ minCodeSize :: SubBlocks.encode chunks)

def Layout.bytes (l : Layout) : Bytes :=
  l.signature ++ field l.width ++ field l.height ++ [l.packed, l.background, l.aspect] ++ l.table ++
    l.blocks.flatMap Block.bytes ++ l.ending

/-- What stands before the blocks. -/
def Layout.head (l : Layout) : Bytes :=
  l.signature ++ field l.width ++ field l.height ++ [l.packed, l.background, l.aspect] ++ l.table

theorem Layout.bytes_eq (l : Layout) :
    l.bytes = l.head ++ (l.blocks.flatMap Block.bytes ++ l.ending) :=
  List.append_assoc _ _ _

/-! ## Conditions -/

/-- A packed field announces a color table: three bytes for each entry, or no table at all. -/
def Announces (packed : UInt8) (table : Bytes) : Prop :=
  table.length = if packed &&& colorTableFlag = 0 then 0 else 3 * 2 ^ (packed.toNat % 8 + 1)

namespace Block

/-- The conditions on a block of a file with a global color table, which may be empty. -/
def Legal (globalTable : Bytes) : Block → Prop
  | extension label chunks =>
    (∀ c ∈ chunks, SubBlocks.WellFormed c) ∧
      (label = graphicControlLabel → ∃ first rest, chunks = first :: rest ∧ 4 ≤ first.length)
  | image d table _ chunks =>
    d.width ≠ 0 ∧ d.height ≠ 0 ∧ Announces d.packed table ∧ (table ≠ [] ∨ globalTable ≠ []) ∧
      ∀ c ∈ chunks, SubBlocks.WellFormed c

def isExtension : Block → Bool
  | extension _ _ => true
  | image _ _ _ _ => false

end Block

/-- What may follow the last block: nothing, or a trailer and then anything. -/
def IsEnding (ending : Bytes) : Prop := ending = [] ∨ ∃ rest, ending = trailer :: rest

/-- The conditions on a file. At least one of its blocks is an image. -/
structure Layout.Legal (l : Layout) : Prop where
  signature : l.signature = signature87 ∨ l.signature = signature89
  table : Announces l.packed l.table
  blocks : ∀ b ∈ l.blocks, b.Legal l.table
  image : ∃ b ∈ l.blocks, b.isExtension = false
  ending : IsEnding l.ending

/-! ## Meaning -/

namespace Block

/-- The control values of a graphic control extension. -/
def control? : Block → Option Control
  | extension label ((packed :: lo :: hi :: index :: _) :: _) =>
    if label = graphicControlLabel then
      some {
        delay := lo.toNat + 256 * hi.toNat
        disposal := packed.toNat / 4 % 8
        transparency := if packed.toNat % 2 = 1 then some index else none }
    else none
  | _ => none

/-- The loop count of a loop extension. -/
def loopCount? : Block → Option Nat
  | extension label (application :: (1 :: lo :: hi :: _) :: _) =>
    if label = applicationLabel ∧ application = loopApplication then
      some (lo.toNat + 256 * hi.toNat)
    else none
  | _ => none

/-- The frame of an image, under the control values that are in force. -/
def frame? (globalTable : Bytes) (control : Control) : Block → Option CodedFrame
  | extension _ _ => none
  | image d table minCodeSize chunks =>
    some {
      left := d.left.toNat
      top := d.top.toNat
      width := d.width.toNat
      height := d.height.toNat
      interlaced := d.packed &&& interlaceFlag ≠ 0
      palette := if table = [] then globalTable else table
      minCodeSize := minCodeSize
      chunks := chunks
      control := control }

/-- The control values in force after some blocks: those of the last graphic control extension since
the last image. -/
def controlAfter (before : List Block) : Control :=
  ((before.reverse.takeWhile isExtension).findSome? control?).getD {}

/-- The loop count in force after some blocks: that of the last loop extension. -/
def loopCountAfter (before : List Block) : Option Nat := before.reverse.findSome? loopCount?

/-- The frames of the images among some blocks that follow others. -/
def framesAfter (globalTable : Bytes) (before : List Block) : List Block → List CodedFrame
  | [] => []
  | b :: rest =>
    (b.frame? globalTable (controlAfter before)).toList ++
      framesAfter globalTable (before ++ [b]) rest

end Block

/-- What a file means. -/
def Layout.container (l : Layout) : Container where
  width := l.width.toNat
  height := l.height.toNat
  backgroundIndex := l.background
  loopCount := Block.loopCountAfter l.blocks
  frames := Block.framesAfter l.table [] l.blocks

/-! ## Fields and color tables -/

/-- The number in a field is read back. -/
theorem field_eq (n : UInt16) : ∃ lo hi, field n = [lo, hi] ∧ Bytes.ofLE [lo, hi] = n.toNat :=
  ⟨_, _, rfl, Bytes.ofLE_toLE (k := 2) n.toNat_lt⟩

theorem exists_field (lo hi : UInt8) : ∃ n, field n = [lo, hi] := by
  have hlo := lo.toNat_lt
  have hhi := hi.toNat_lt
  have hvalue : Bytes.ofLE [lo, hi] = lo.toNat + 256 * hi.toNat := rfl
  refine ⟨UInt16.ofNat (Bytes.ofLE [lo, hi]), ?_⟩
  have hnat : (UInt16.ofNat (Bytes.ofLE [lo, hi])).toNat = Bytes.ofLE [lo, hi] := by
    rw [UInt16.toNat_ofNat', hvalue]
    omega
  have hhigh : (lo.toNat + 256 * hi.toNat) / 256 = hi.toNat := by omega
  have hlow : UInt8.ofNat (lo.toNat + 256 * hi.toNat) = lo := by
    rw [← UInt8.toNat_inj, UInt8.toNat_ofNat']
    omega
  rw [field, hnat, hvalue, Bytes.toLE, Bytes.toLE, Bytes.toLE, hhigh, hlow, UInt8.ofNat_toNat]

section Palettes

variable {globalTable table palette bs rest : Bytes} {packed : UInt8}

theorem readPalette_of_announces (h : Announces packed table) :
    readPalette globalTable packed (table ++ rest) =
      .ok (if table = [] then globalTable else table, rest) := by
  unfold Announces at h
  unfold readPalette
  split at h
  · obtain rfl := List.eq_nil_of_length_eq_zero h
    rename_i hflag
    rw [if_pos hflag, if_pos rfl]
    rfl
  · rename_i hflag
    have hne : table ≠ [] := by
      rintro rfl
      have := Nat.two_pow_pos (packed.toNat % 8 + 1)
      rw [List.length_nil] at h
      omega
    have htake : Bytes.takeExact (ColorTable.byteSize packed) (table ++ rest) =
        some (table, rest) := by
      refine Bytes.takeExact_eq_some.2 ⟨rfl, ?_⟩
      rw [h, ColorTable.byteSize, Nat.one_shiftLeft]
    rw [if_neg hflag, if_neg hne, htake]

theorem exists_table_of_readPalette
    (h : readPalette globalTable packed bs = .ok (palette, rest)) :
    ∃ table, Announces packed table ∧ bs = table ++ rest ∧
      palette = if table = [] then globalTable else table := by
  unfold readPalette at h
  split at h
  · rename_i hflag
    cases h
    exact ⟨[], (if_pos hflag).symm, rfl, (if_pos rfl).symm⟩
  · rename_i hflag
    split at h
    · cases h
    rename_i r htake
    cases h
    obtain ⟨hbs, hlen⟩ := Bytes.takeExact_eq_some.1 htake
    rw [ColorTable.byteSize, Nat.one_shiftLeft] at hlen
    refine ⟨palette, hlen.trans (if_neg hflag).symm, hbs, (if_neg ?_).symm⟩
    rintro rfl
    have := Nat.two_pow_pos (packed.toNat % 8 + 1)
    rw [List.length_nil] at hlen
    omega

end Palettes

/-! ## Reading blocks -/

/-- What has been read after some blocks, when their frames are `frames`. -/
def Scan.after (before : List Block) (frames : List CodedFrame) : Scan where
  loopCount := Block.loopCountAfter before
  control := Block.controlAfter before
  frames := frames

namespace Block

variable {before : List Block} {label : UInt8} {chunks : List Bytes}

theorem controlAfter_extension :
    controlAfter (before ++ [extension label chunks]) =
      ((extension label chunks).control?).getD (controlAfter before) := by
  unfold controlAfter
  rw [List.reverse_concat, List.takeWhile_cons_of_pos rfl, List.findSome?_cons]
  cases (extension label chunks).control? <;> rfl

theorem controlAfter_image (d : Descriptor) (table : Bytes) (minCodeSize : UInt8) :
    controlAfter (before ++ [image d table minCodeSize chunks]) = {} := by
  unfold controlAfter
  rw [List.reverse_concat, List.takeWhile_cons_of_neg (by simp [isExtension])]
  rfl

theorem loopCountAfter_concat (b : Block) :
    loopCountAfter (before ++ [b]) = b.loopCount?.or (loopCountAfter before) := by
  unfold loopCountAfter
  rw [List.reverse_concat, List.findSome?_cons]
  cases b.loopCount? <;> rfl

theorem control?_of_ne (h : label ≠ graphicControlLabel) :
    (extension label chunks).control? = none := by
  unfold control?
  split
  · rename_i heq
    cases heq
    exact if_neg h
  · rfl

theorem loopCount?_of_ne (h : label ≠ applicationLabel) :
    (extension label chunks).loopCount? = none := by
  unfold loopCount?
  split
  · rename_i heq
    cases heq
    exact if_neg fun hand => h hand.1
  · rfl

theorem loopCount?_of_application {first second : Bytes} {rest : List Bytes} :
    (extension applicationLabel (first :: second :: rest)).loopCount? =
      if first = loopApplication then loopCountOfBlock? second else none := by
  by_cases hfirst : first = loopApplication
  · rw [if_pos hfirst]
    unfold loopCountOfBlock?
    split
    · exact if_pos ⟨rfl, hfirst⟩
    · rename_i hother
      unfold loopCount?
      split
      · rename_i heq
        cases heq
        exact absurd rfl (hother _ _ _)
      · rfl
  · rw [if_neg hfirst]
    unfold loopCount?
    split
    · rename_i heq
      cases heq
      exact if_neg fun hand => hfirst hand.2
    · rfl

/-- The fields of a graphic control extension that is long enough. -/
theorem exists_control_fields {first : Bytes} (h : 4 ≤ first.length) :
    ∃ packed lo hi index more, first = packed :: lo :: hi :: index :: more := by
  match first, h with
  | packed :: lo :: hi :: index :: more, _ => exact ⟨packed, lo, hi, index, more, rfl⟩

/-- An extension of a file is read as what it means. -/
theorem extend_after {globalTable : Bytes} {frames : List CodedFrame}
    (h : (extension label chunks).Legal globalTable) :
    (Scan.after before frames).extend label chunks =
      .ok (Scan.after (before ++ [extension label chunks]) frames) := by
  obtain ⟨-, hcontrol⟩ := h
  unfold Scan.after Scan.extend
  rw [controlAfter_extension, loopCountAfter_concat]
  -- a graphic control extension has no say in the loop count, nor has any other in the control values
  by_cases hgraphic : label = graphicControlLabel
  · obtain ⟨first, rest, rfl, hfour⟩ := hcontrol hgraphic
    obtain ⟨packed, lo, hi, index, more, rfl⟩ := exists_control_fields hfour
    have hne : label ≠ applicationLabel := by
      rw [hgraphic]
      decide
    rw [if_pos hgraphic, loopCount?_of_ne hne]
    simp only [Control.ofBlock?, control?, if_pos hgraphic, Bytes.ofLE, Nat.mul_zero, Nat.add_zero,
      Option.getD_some, Option.none_or]
  rw [if_neg hgraphic, control?_of_ne hgraphic]
  by_cases happlication : label = applicationLabel
  · rw [if_pos happlication]
    rcases chunks with _ | ⟨first, _ | ⟨second, rest⟩⟩
    · rfl
    · rfl
    · rw [happlication, loopCount?_of_application]
      by_cases hfirst : first = loopApplication
      · simp only [if_pos hfirst]
        cases loopCountOfBlock? second <;> rfl
      · simp only [if_neg hfirst]
        rfl
  · rw [if_neg happlication, loopCount?_of_ne happlication]
    rfl

theorem readImage_of_legal {globalTable table : Bytes} {d : Descriptor} {minCodeSize : UInt8}
    (control : Control) (rest : Bytes) (h : (image d table minCodeSize chunks).Legal globalTable) :
    ∃ f, (image d table minCodeSize chunks).frame? globalTable control = some f ∧
      readImage globalTable control
        (d.bytes ++ table ++ minCodeSize :: SubBlocks.encode chunks ++ rest) = .ok (f, rest) := by
  obtain ⟨hwidth, hheight, htable, hpalette, hchunks⟩ := h
  obtain ⟨l0, l1, hl, hleft⟩ := field_eq d.left
  obtain ⟨t0, t1, ht, htop⟩ := field_eq d.top
  obtain ⟨w0, w1, hw, hw'⟩ := field_eq d.width
  obtain ⟨h0, h1, hh, hh'⟩ := field_eq d.height
  have hne : ¬ (if table = [] then globalTable else table) = [] := by
    split
    · rename_i hnil
      exact hpalette.resolve_left (not_not_intro hnil)
    · assumption
  have hsides : ¬ (d.width.toNat = 0 ∨ d.height.toNat = 0) := by
    rintro (h0 | h0)
    · exact hwidth (UInt16.toNat_inj.1 h0)
    · exact hheight (UInt16.toNat_inj.1 h0)
  refine ⟨_, rfl, ?_⟩
  simp only [Descriptor.bytes, hl, ht, hw, hh, List.cons_append, List.nil_append,
    List.append_assoc]
  unfold readImage
  simp only [readPalette_of_announces htable, if_neg hne, hleft, htop, hw', hh', if_neg hsides,
    SubBlocks.read?_encode hchunks]

variable {globalTable rest : Bytes} {frames : List CodedFrame} {b : Block} {blocks : List Block}

/-- **A block is read as what it means.** -/
theorem scan_block (h : b.Legal globalTable) :
    scan globalTable (Scan.after before frames) (b.bytes ++ rest) =
      scan globalTable
        (Scan.after (before ++ [b])
          ((b.frame? globalTable (controlAfter before)).toList ++ frames)) rest := by
  cases b with
  | extension label chunks => exact scan_extension h.1 (extend_after h)
  | image d table minCodeSize chunks =>
    obtain ⟨f, hframe, hread⟩ := readImage_of_legal (controlAfter before) rest h
    have hafter : Scan.after (before ++ [image d table minCodeSize chunks]) (f :: frames) =
        { Scan.after before frames with control := {}, frames := f :: frames } := by
      unfold Scan.after
      rw [controlAfter_image, loopCountAfter_concat]
      rfl
    rw [hframe, Option.toList_some, List.singleton_append, hafter]
    exact scan_image hread

/-- **Blocks are read as what they mean**, each in the light of all that stand before it. -/
theorem scan_blocks (h : ∀ b ∈ blocks, b.Legal globalTable) :
    scan globalTable (Scan.after before frames) (blocks.flatMap bytes ++ rest) =
      scan globalTable
        (Scan.after (before ++ blocks)
          ((framesAfter globalTable before blocks).reverse ++ frames)) rest := by
  induction blocks generalizing before frames with
  | nil => rw [List.append_nil]; rfl
  | cons b blocks ih =>
    have hb := h b (by simp)
    rw [List.flatMap_cons, List.append_assoc, scan_block hb,
      ih fun c hc => h c (List.mem_cons_of_mem _ hc), framesAfter, List.append_assoc,
      List.reverse_append, List.append_assoc]
    cases b.frame? globalTable (controlAfter before) <;> rfl

/-- Some blocks have a frame if and only if there is an image among them. -/
theorem framesAfter_ne_nil :
    framesAfter globalTable before blocks ≠ [] ↔ ∃ b ∈ blocks, b.isExtension = false := by
  induction blocks generalizing before with
  | nil => simp [framesAfter]
  | cons b blocks ih =>
    cases b with
    | extension label chunks => simpa [framesAfter, frame?, isExtension] using ih
    | image d table minCodeSize chunks => simp [framesAfter, frame?, isExtension]

end Block

/-! ## Only blocks are read -/

section Inversion

variable {globalTable bs rest : Bytes} {label : UInt8} {chunks : List Bytes}

theorem legal_of_extend {st st' : Scan} (hchunks : ∀ c ∈ chunks, SubBlocks.WellFormed c)
    (h : st.extend label chunks = .ok st') : (Block.extension label chunks).Legal globalTable := by
  refine ⟨hchunks, fun hgraphic => ?_⟩
  unfold Scan.extend at h
  rw [if_pos hgraphic] at h
  split at h
  · cases h
  rename_i first rest
  split at h
  · cases h
  rename_i control hcontrol
  refine ⟨first, rest, rfl, ?_⟩
  unfold Control.ofBlock? at hcontrol
  split at hcontrol
  · simp
  · cases hcontrol

theorem exists_image_of_readImage {control : Control} {f : CodedFrame}
    (h : readImage globalTable control bs = .ok (f, rest)) :
    ∃ d table minCodeSize chunks, (Block.image d table minCodeSize chunks).Legal globalTable ∧
      bs = d.bytes ++ table ++ minCodeSize :: SubBlocks.encode chunks ++ rest := by
  unfold readImage at h
  split at h
  · rename_i l0 l1 t0 t1 w0 w1 h0 h1 packed tl
    split at h
    · cases h
    rename_i palette afterTable hpalette
    obtain ⟨table, htable, rfl, hvalue⟩ := exists_table_of_readPalette hpalette
    split at h
    · cases h
    rename_i hne
    split at h
    · cases h
    rename_i hsides
    split at h
    · cases h
    rename_i minCodeSize afterSize
    split at h
    · cases h
    rename_i chunks afterChunks hread
    cases h
    obtain ⟨rfl, hchunks⟩ := SubBlocks.eq_of_read? hread
    obtain ⟨left, hl⟩ := exists_field l0 l1
    obtain ⟨top, ht⟩ := exists_field t0 t1
    obtain ⟨width, hw⟩ := exists_field w0 w1
    obtain ⟨height, hh⟩ := exists_field h0 h1
    have hside {n : UInt16} {lo hi : UInt8} (hn : field n = [lo, hi])
        (hpos : Bytes.ofLE [lo, hi] ≠ 0) : n ≠ 0 := by
      rintro rfl
      rw [← hn] at hpos
      exact hpos rfl
    have hpalette : table ≠ [] ∨ globalTable ≠ [] := by
      by_cases htable : table = []
      · rw [if_pos htable] at hvalue
        exact .inr (hvalue ▸ hne)
      · exact .inl htable
    refine ⟨⟨left, top, width, height, packed⟩, table, minCodeSize, chunks,
      ⟨hside hw fun h => hsides (.inl h), hside hh fun h => hsides (.inr h), htable, hpalette,
        hchunks⟩, ?_⟩
    simp only [Descriptor.bytes, hl, ht, hw, hh, List.cons_append, List.nil_append,
      List.append_assoc]
  · cases h

/-- Some bytes are legal blocks with an ending behind them. -/
def IsBlocks (globalTable bs : Bytes) : Prop :=
  ∃ (blocks : List Block) (ending : Bytes), bs = blocks.flatMap Block.bytes ++ ending ∧
    (∀ b ∈ blocks, b.Legal globalTable) ∧ IsEnding ending

theorem IsBlocks.cons {b : Block} (hb : b.Legal globalTable) (h : IsBlocks globalTable rest) :
    IsBlocks globalTable (b.bytes ++ rest) := by
  obtain ⟨blocks, ending, rfl, hlegal, hending⟩ := h
  refine ⟨b :: blocks, ending, by rw [List.flatMap_cons, List.append_assoc], ?_, hending⟩
  intro c hc
  rcases List.mem_cons.1 hc with rfl | hc
  · exact hb
  · exact hlegal c hc

/-- **Whatever is read consists of legal blocks.** -/
theorem isBlocks_of_scan {st st' : Scan} (h : scan globalTable st bs = .ok st') :
    IsBlocks globalTable bs := by
  -- two cases are endings and two take a block off the front; in all others the reader fails
  fun_induction scan globalTable st bs with
  | case1 => exact ⟨[], [], rfl, by simp, .inl rfl⟩
  | case2 st rest => exact ⟨[], trailer :: rest, rfl, by simp, .inr ⟨rest, rfl⟩⟩
  | case3 => cases h
  | case4 => cases h
  | case5 => cases h
  | case6 st label bs chunks rest hread next hextend hne ih =>
    obtain ⟨rfl, hchunks⟩ := SubBlocks.eq_of_read? hread
    exact IsBlocks.cons (legal_of_extend hchunks hextend) (ih h)
  | case7 => cases h
  | case8 st bs frame rest himage hne hne' ih =>
    obtain ⟨d, table, minCodeSize, chunks, hlegal, rfl⟩ := exists_image_of_readImage himage
    exact IsBlocks.cons hlegal (ih h)
  | case9 => cases h

end Inversion

/-! ## Containers -/

theorem scan_ending {globalTable ending : Bytes} (st : Scan) (h : IsEnding ending) :
    scan globalTable st ending = .ok st := by
  unfold scan
  obtain rfl | ⟨rest, rfl⟩ := h
  · rfl
  · exact if_pos rfl

/-- The blocks of a file are read as what they mean, whatever follows them. -/
theorem scan_start {globalTable : Bytes} {blocks : List Block} (rest : Bytes)
    (h : ∀ b ∈ blocks, b.Legal globalTable) :
    scan globalTable {} (blocks.flatMap Block.bytes ++ rest) =
      scan globalTable (Scan.after blocks (Block.framesAfter globalTable [] blocks).reverse)
        rest := by
  have hscan : scan globalTable (Scan.after [] []) (blocks.flatMap Block.bytes ++ rest) = _ :=
    Block.scan_blocks h
  rwa [List.nil_append, List.append_nil] at hscan

theorem takeExact_signature {signature : Bytes} (rest : Bytes)
    (h : signature = signature87 ∨ signature = signature89) :
    Bytes.takeExact 6 (signature ++ rest) = some (signature, rest) := by
  refine Bytes.takeExact_eq_some.2 ⟨rfl, ?_⟩
  rcases h with rfl | rfl <;> rfl

/-- The container of a file whose blocks have been read. -/
def Layout.containerOf (l : Layout) (st : Scan) : Except FormatError Container :=
  if st.frames = [] then .error .noFrames
  else
    .ok {
      width := l.width.toNat
      height := l.height.toNat
      backgroundIndex := l.background
      loopCount := st.loopCount
      frames := st.frames.reverse }

/-- Behind a legal head, parsing is reading blocks. -/
theorem parse_head {l : Layout} (rest : Bytes)
    (hsignature : l.signature = signature87 ∨ l.signature = signature89)
    (htable : Announces l.packed l.table) :
    Container.parse (l.head ++ rest) = (scan l.table {} rest).bind l.containerOf := by
  obtain ⟨w0, w1, hw, hwidth⟩ := field_eq l.width
  obtain ⟨h0, h1, hh, hheight⟩ := field_eq l.height
  have hglobal : readGlobalPalette l.packed (l.table ++ rest) = .ok (l.table, rest) := by
    refine (readPalette_of_announces htable).trans ?_
    split
    · rename_i hnil
      rw [hnil]
    · rfl
  have hneither : ¬ (l.signature ≠ signature87 ∧ l.signature ≠ signature89) := by
    rintro ⟨h87, h89⟩
    exact hsignature.elim h87 h89
  unfold Container.parse Layout.head
  simp only [List.append_assoc, takeExact_signature _ hsignature, if_neg hneither, hw, hh,
    List.cons_append, List.nil_append, hglobal, hwidth, hheight]
  cases scan l.table {} rest <;> rfl

/-- A legal file is parsed as what it means. -/
theorem parse_bytes {l : Layout} (h : l.Legal) : Container.parse l.bytes = .ok l.container := by
  have hframes : (Block.framesAfter l.table [] l.blocks).reverse ≠ [] := by
    rw [List.reverse_ne_nil_iff]
    exact Block.framesAfter_ne_nil.2 h.image
  rw [l.bytes_eq, parse_head _ h.signature h.table, scan_start _ h.blocks, scan_ending _ h.ending]
  refine (if_neg hframes).trans ?_
  rw [Scan.after, List.reverse_reverse]
  rfl

/-- Whatever is parsed is a legal file. -/
theorem exists_layout_of_parse {data : Bytes} {c : Container} (h : Container.parse data = .ok c) :
    ∃ l : Layout, l.Legal ∧ l.bytes = data := by
  unfold Container.parse at h
  split at h
  · cases h
  rename_i signature rest htake
  obtain ⟨rfl, -⟩ := Bytes.takeExact_eq_some.1 htake
  split at h
  · cases h
  rename_i hsignature
  split at h
  · rename_i w0 w1 h0 h1 packed background aspect afterScreen
    split at h
    · cases h
    rename_i globalTable afterTable hglobal
    obtain ⟨table, htable, rfl, hvalue⟩ := exists_table_of_readPalette hglobal
    -- there is no other table that could stand for an absent global one
    obtain rfl : globalTable = table := by
      rw [hvalue]
      split
      · rename_i hnil
        rw [hnil]
      · rfl
    split at h
    · cases h
    rename_i st hscan
    obtain ⟨blocks, ending, rfl, hblocks, hending⟩ := isBlocks_of_scan hscan
    rw [scan_start _ hblocks, scan_ending _ hending] at hscan
    cases hscan
    split at h
    · cases h
    rename_i hframes
    obtain ⟨width, hw⟩ := exists_field w0 w1
    obtain ⟨height, hh⟩ := exists_field h0 h1
    refine ⟨⟨signature, width, height, packed, background, aspect, globalTable, blocks, ending⟩,
      { signature := ?_
        table := htable
        blocks := hblocks
        image := Block.framesAfter_ne_nil.1 fun hnil => hframes (List.reverse_eq_nil_iff.2 hnil)
        ending := hending }, ?_⟩
    · by_contra hneither
      exact hsignature ⟨fun h87 => hneither (.inl h87), fun h89 => hneither (.inr h89)⟩
    · simp only [Layout.bytes, hw, hh, List.append_assoc, List.cons_append, List.nil_append]
  · cases h

/-- **The parser accepts the grammar of GIF files and nothing else, and returns what a file means.**
In particular, two ways to read the same bytes as a file never mean different things. -/
theorem parse_eq_ok_iff {data : Bytes} {c : Container} :
    Container.parse data = .ok c ↔ ∃ l : Layout, l.Legal ∧ l.bytes = data ∧ l.container = c := by
  constructor
  · intro h
    obtain ⟨l, hlegal, rfl⟩ := exists_layout_of_parse h
    exact ⟨l, hlegal, rfl, Except.ok.inj ((parse_bytes hlegal).symm.trans h)⟩
  · rintro ⟨l, hlegal, rfl, rfl⟩
    exact parse_bytes hlegal

end Portrait.Gif
