import Mathlib.Order.Basic
import Portrait.Proofs.Raster.Orientation
import Portrait.Still.Prepare

/-!
# Pictures are prepared as they are meant to be seen

A JPEG may store its picture in an orientation and say in which; preparing turns it back. What
counts is the first number of the tag, or, if there is no such tag, the digit in the XMP text. A
JPEG that says nothing, or nothing that makes sense, is taken as it is, and so is a picture in any
container whose tag is not heeded. A TIFF has been turned already when its pixels are there.

* `Exif.Gives`, `Exif.Silent` — what an EXIF block and an XMP text say of the orientation.
* `Exif.proper`, `Exif.Loose` — the orientation that should count, and when another one does.
* `Shows` — the picture that a file is taken to show.
* `Shows.prepare_eq` — preparing fills the square from this picture.
* `exists_shows` — every picture that can be decoded shows something.

Main statement: `prepare_shown`. The files of `loose_tags_turn` should be taken as they are, since one
has a tag of two numbers and the other none, but they are turned.
-/

set_option autoImplicit false

namespace Portrait

/-! ## Tags -/

namespace Exif

/-- The orientation is given as `n`: by the first number of the tag, or, if there is no tag, by the
text. -/
def Gives (block : Bytes) (text : Option Bytes) (n : Int) : Prop :=
  ∃ d, readBlock block = .ok d ∧
    ((∃ more, d.value? orientationTag = some (.numbers (n :: more))) ∨
      (d.value? orientationTag = none ∧ ∃ k : Nat, text.bind textOrientation? = some k ∧ n = k))

/-- No orientation is given, or none that makes sense. -/
inductive Silent (block : Bytes) (text : Option Bytes) : Prop
  /-- The block is not a TIFF structure. -/
  | unreadable {e : StillError} (hblock : readBlock block = .error e)
  /-- There is neither a tag nor a text that could stand for it. -/
  | missing {d : Tiff.Directory} (hblock : readBlock block = .ok d)
      (htag : d.value? orientationTag = none) (htext : text.bind textOrientation? = none)
  /-- The tag has a value of another type. -/
  | noNumber {d : Tiff.Directory} {v : Tiff.Value} (hblock : readBlock block = .ok d)
      (htag : d.value? orientationTag = some v) (hvalue : ∀ n more, v ≠ .numbers (n :: more))
  /-- The number is no orientation. -/
  | outOfRange {n : Int} (hgives : Gives block text n) (hrange : ¬ (1 ≤ n ∧ n ≤ 8))

variable {block : Bytes} {text : Option Bytes}

/-- A number that is given either is an orientation or does not make sense. -/
theorem Gives.settled {n : Int} (h : Gives block text n) :
    (∃ o : Nat, Gives block text o ∧ 1 ≤ o ∧ o ≤ 8) ∨ Silent block text := by
  by_cases hrange : 1 ≤ n ∧ n ≤ 8
  · obtain ⟨o, rfl⟩ := Int.eq_ofNat_of_zero_le (Int.le_trans Int.one_nonneg hrange.1)
    exact .inl ⟨o, h, by omega⟩
  · exact .inr (.outOfRange h hrange)

theorem gives_or_silent (block : Bytes) (text : Option Bytes) :
    (∃ o : Nat, Gives block text o ∧ 1 ≤ o ∧ o ≤ 8) ∨ Silent block text := by
  cases hblock : readBlock block with
  | error e => exact .inr (.unreadable hblock)
  | ok d =>
    cases htag : d.value? orientationTag with
    | none =>
      cases htext : text.bind textOrientation? with
      | none => exact .inr (.missing hblock htag htext)
      | some k => exact Gives.settled ⟨d, hblock, .inr ⟨htag, k, htext, rfl⟩⟩
    | some v =>
      by_cases hvalue : ∃ n more, v = .numbers (n :: more)
      · obtain ⟨n, more, rfl⟩ := hvalue
        exact Gives.settled ⟨d, hblock, .inl ⟨more, htag⟩⟩
      · exact .inr (.noNumber hblock htag fun n more hv => hvalue ⟨n, more, hv⟩)

/-- What is said is heeded if it is an orientation. -/
theorem orientation_of_gives {n : Int} (h : Gives block text n) :
    ∃ d, readBlock block = .ok d ∧ orientation d text = valid n := by
  obtain ⟨d, hblock, ⟨more, htag⟩ | ⟨htag, k, htext, rfl⟩⟩ := h
  · exact ⟨d, hblock, by rw [orientation, htag]⟩
  · exact ⟨d, hblock, by rw [orientation, htag, htext]⟩

theorem orientation_of_silent (h : Silent block text) :
    (∃ e, readBlock block = .error e) ∨
      ∃ d, readBlock block = .ok d ∧ orientation d text = 0 := by
  cases h with
  | unreadable hblock => exact .inl ⟨_, hblock⟩
  | missing hblock htag htext => exact .inr ⟨_, hblock, by rw [orientation, htag, htext]⟩
  | noNumber hblock htag hvalue =>
    refine .inr ⟨_, hblock, ?_⟩
    rw [orientation, htag]
    split
    · rename_i heq
      cases heq
      exact absurd rfl (hvalue _ _)
    · rfl
    · rename_i heq
      cases heq
  | outOfRange hgives hrange =>
    obtain ⟨d, hblock, horientation⟩ := orientation_of_gives hgives
    exact .inr ⟨d, hblock, horientation.trans (if_neg hrange)⟩

/-- The orientation that should count: the tag, if it is a single number that is an orientation. -/
def proper (d : Tiff.Directory) : Nat :=
  match d.value? orientationTag with
  | some (.numbers [n]) => valid n
  | _ => 0

/-- An orientation counts that should not. -/
inductive Loose (d : Tiff.Directory) (text : Option Bytes) : Prop
  /-- It is the first of several numbers. -/
  | several {n : Int} {more : List Int}
      (htag : d.value? orientationTag = some (.numbers (n :: more))) (hmore : more ≠ [])
      (hrange : 1 ≤ n ∧ n ≤ 8)
  /-- The tag is missing, and the text stands for it. -/
  | replaced {k : Nat} (htag : d.value? orientationTag = none)
      (htext : text.bind textOrientation? = some k) (hrange : 1 ≤ (k : Int) ∧ (k : Int) ≤ 8)

theorem valid_eq_zero_iff {n : Int} : valid n = 0 ↔ ¬ (1 ≤ n ∧ n ≤ 8) := by
  unfold valid
  split <;> omega

/-- What counts is what should, but for these two cases. -/
theorem orientation_eq_proper_iff (d : Tiff.Directory) (text : Option Bytes) :
    orientation d text = proper d ↔ ¬ Loose d text := by
  cases htag : d.value? orientationTag with
  | none =>
    cases htext : text.bind textOrientation? with
    | none =>
      refine iff_of_true (by rw [orientation, proper, htag, htext]) ?_
      rintro (⟨htag', -, -⟩ | ⟨-, htext', -⟩)
      · cases htag.symm.trans htag'
      · cases htext.symm.trans htext'
    | some k =>
      rw [orientation, proper, htag, htext]
      refine valid_eq_zero_iff.trans (not_congr ⟨fun h => .replaced htag htext h, ?_⟩)
      rintro (⟨htag', -, -⟩ | ⟨-, htext', hrange⟩)
      · cases htag.symm.trans htag'
      · cases htext.symm.trans htext'
        exact hrange
  | some v =>
    by_cases hseveral : ∃ n m more, v = .numbers (n :: m :: more)
    · obtain ⟨n, m, more, rfl⟩ := hseveral
      rw [orientation, proper, htag]
      refine valid_eq_zero_iff.trans
        (not_congr ⟨fun h => .several htag (List.cons_ne_nil _ _) h, ?_⟩)
      rintro (⟨htag', -, hrange⟩ | ⟨htag', -, -⟩)
      · cases htag.symm.trans htag'
        exact hrange
      · cases htag.symm.trans htag'
    · refine iff_of_true ?_ ?_
      · rw [orientation, proper, htag]
        obtain (_ | ⟨n, _ | ⟨m, more⟩⟩) | _ | _ := v
        · rfl
        · rfl
        · exact absurd ⟨n, m, more, rfl⟩ hseveral
        · rfl
        · rfl
      · rintro (⟨htag', hmore, -⟩ | ⟨htag', -, -⟩)
        · obtain ⟨m, more, rfl⟩ := List.exists_cons_of_ne_nil hmore
          exact hseveral ⟨_, m, more, Option.some.inj (htag.symm.trans htag')⟩
        · cases htag.symm.trans htag'

end Exif

namespace Jpeg.File

/-- The file gives the orientation of its picture as `n`. -/
def Gives (f : File) (n : Int) : Prop := Exif.Gives (f.header.exif.getD []) f.header.xmp n

def Silent (f : File) : Prop := Exif.Silent (f.header.exif.getD []) f.header.xmp

variable {f : File}

theorem orientation_of_gives {o : Nat} (h : f.Gives o) (hmin : 1 ≤ o) (hmax : o ≤ 8) :
    f.orientation = .ok o := by
  obtain ⟨d, hblock, hvalid⟩ := Exif.orientation_of_gives h
  have hrange : Exif.valid o = o := if_pos (by omega)
  rw [orientation, hblock, Except.map, hvalid, hrange]

/-- Nothing is turned by a tag that is not there, makes no sense or cannot be read. -/
theorem turn_of_silent (h : f.Silent) (pixels : Raster Rgba) :
    turn pixels f.orientation = pixels := by
  unfold orientation
  obtain ⟨e, hblock⟩ | ⟨d, hblock, hzero⟩ := Exif.orientation_of_silent h
  · rw [hblock]
    rfl
  · rw [hblock, Except.map, hzero]
    rfl

/-- The orientation that counts; none does if the tags cannot be read. -/
def heeded (f : File) : Nat :=
  match f.orientation with
  | .ok n => n
  | .error _ => 0

/-- The orientation that should count. -/
def proper (f : File) : Nat :=
  match Exif.readBlock (f.header.exif.getD []) with
  | .ok d => Exif.proper d
  | .error _ => 0

/-- An orientation counts that should not. -/
def Loose (f : File) : Prop :=
  ∃ d, Exif.readBlock (f.header.exif.getD []) = .ok d ∧ Exif.Loose d f.header.xmp

theorem heeded_eq_proper_iff (f : File) : f.heeded = f.proper ↔ ¬ f.Loose := by
  unfold heeded proper Loose orientation
  cases Exif.readBlock (f.header.exif.getD []) with
  | error e => simp [Except.map]
  | ok d => simpa [Except.map] using Exif.orientation_eq_proper_iff d f.header.xmp

theorem turn_orientation (f : File) (pixels : Raster Rgba) :
    turn pixels f.orientation = pixels.upright f.heeded := by
  unfold heeded
  cases f.orientation <;> rfl

end Jpeg.File

/-! ## Pictures -/

/-- The picture that a file of some container is taken to show. -/
inductive Shows (bs : Bytes) : Format → Raster Rgba → Prop
  /-- A JPEG stores its picture in the orientation that it says. -/
  | tagged {f : Jpeg.File} {image : Raster Rgba} {o : Nat} (hopen : Still.open bs = .ok (.jpeg f))
      (hload : f.load = .ok (image.stored o)) (hgives : f.Gives o) (hmin : 1 ≤ o) (hmax : o ≤ 8) :
      Shows bs .jpeg image
  /-- A JPEG that says nothing stores its picture as it is. -/
  | untagged {f : Jpeg.File} {image : Raster Rgba} (hopen : Still.open bs = .ok (.jpeg f))
      (hload : f.load = .ok image) (hsilent : f.Silent) : Shows bs .jpeg image
  /-- The pixels of a TIFF are upright when they have been decoded. -/
  | turned {f : Tiff.File} {image : Raster Rgba} (hopen : Still.open bs = .ok (.tiff f))
      (hload : f.load = .ok image) : Shows bs .tiff image
  /-- In any other container a tag does not count. -/
  | unheeded {s : Still} {format : Format} {image : Raster Rgba} {tag : Except StillError Nat}
      (hopen : Still.open bs = .ok s) (hload : s.load = .ok (image, tag))
      (hformat : format.hasOrientation = false) : Shows bs format image

section Prepare

variable {bs : Bytes} {s : Still} {pixels image : Raster Rgba} {tag : Except StillError Nat}
  {format : Format}

/-- A picture is turned as the tag that is heeded says, and then fills the square. -/
theorem prepare_of_load (hopen : Still.open bs = .ok s) (hload : s.load = .ok (pixels, tag))
    (format : Option Format) (size : Int) :
    prepare bs format size = fillSquare (turn pixels (heededTag format tag)) size := by
  simp only [prepare, upright, hopen, hload]

theorem load_jpeg {f : Jpeg.File} (h : f.load = .ok pixels) :
    (Still.jpeg f).load = .ok (pixels, f.orientation) := by
  rw [Still.load, h]
  rfl

/-- A JPEG is turned by the orientation that counts. -/
theorem prepare_jpeg {f : Jpeg.File} (hopen : Still.open bs = .ok (.jpeg f))
    (hload : f.load = .ok pixels) (size : Int) :
    prepare bs (some .jpeg) size = fillSquare (pixels.upright f.heeded) size := by
  rw [prepare_of_load hopen (load_jpeg hload), ← Jpeg.File.turn_orientation]
  rfl

/-- After a TIFF has been turned, its tag turns nothing. -/
theorem turn_orientationAfterLoad (f : Tiff.File) (pixels : Raster Rgba) :
    turn pixels (.ok f.orientationAfterLoad) = pixels := by
  have hsmall : f.orientationAfterLoad = 0 ∨ f.orientationAfterLoad = 1 := by
    unfold Tiff.File.orientationAfterLoad
    split <;> omega
  unfold turn
  obtain h | h := hsmall <;> rw [h] <;> rfl

/-- What a file is taken to show is what its pixels are turned into. -/
theorem Shows.exists_turn (h : Shows bs format image) :
    ∃ s pixels tag, Still.open bs = .ok s ∧ s.load = .ok (pixels, tag) ∧
      turn pixels (heededTag (some format) tag) = image := by
  cases h with
  | tagged hopen hload hgives hmin hmax =>
    refine ⟨_, _, _, hopen, load_jpeg hload, ?_⟩
    simp only [heededTag, Format.hasOrientation, if_true,
      Jpeg.File.orientation_of_gives hgives hmin hmax, turn, Raster.upright_stored]
  | untagged hopen hload hsilent =>
    refine ⟨_, _, _, hopen, load_jpeg hload, ?_⟩
    simp only [heededTag, Format.hasOrientation, if_true, Jpeg.File.turn_of_silent hsilent]
  | turned hopen hload =>
    refine ⟨_, _, _, hopen, by rw [Still.load, hload]; rfl, ?_⟩
    simp only [heededTag, Format.hasOrientation, if_true, turn_orientationAfterLoad]
  | unheeded hopen hload hformat =>
    refine ⟨_, _, _, hopen, hload, ?_⟩
    simp only [heededTag, hformat, Bool.false_eq_true, if_false]
    rfl

/-- **The square is filled from the picture that the file is taken to show.** -/
theorem Shows.prepare_eq (h : Shows bs format image) (size : Int) :
    prepare bs (some format) size = fillSquare image size := by
  obtain ⟨s, pixels, tag, hopen, hload, rfl⟩ := h.exists_turn
  exact prepare_of_load hopen hload _ size

theorem Shows.unique {image' : Raster Rgba} (h : Shows bs format image)
    (h' : Shows bs format image') : image' = image := by
  obtain ⟨s, pixels, tag, hopen, hload, rfl⟩ := h.exists_turn
  obtain ⟨s', pixels', tag', hopen', hload', rfl⟩ := h'.exists_turn
  cases hopen.symm.trans hopen'
  cases hload.symm.trans hload'
  rfl

/-- A picture that has been decoded shows something: its pixels are those of some picture, stored in
the orientation that the file says. -/
theorem exists_shows (hopen : Still.open bs = .ok s) (hload : s.load = .ok (pixels, tag)) :
    ∃ image, Shows bs s.format image := by
  cases s with
  | jpeg f =>
    cases hf : f.load with
    | error e => simp [Still.load, hf, Except.map] at hload
    | ok r =>
      obtain ⟨o, hgives, hmin, hmax⟩ | hsilent :=
        Exif.gives_or_silent (f.header.exif.getD []) f.header.xmp
      · exact ⟨r.upright o, .tagged hopen (by rw [Raster.stored_upright, hf]) hgives hmin hmax⟩
      · exact ⟨r, .untagged hopen hf hsilent⟩
  | tiff f =>
    cases hf : f.load with
    | error e => simp [Still.load, hf, Except.map] at hload
    | ok r => exact ⟨r, .turned hopen hf⟩
  | png f => exact ⟨pixels, .unheeded hopen hload rfl⟩
  | gif f => exact ⟨pixels, .unheeded hopen hload rfl⟩
  | bmp f => exact ⟨pixels, .unheeded hopen hload rfl⟩
  | webp f => exact ⟨pixels, .unheeded hopen hload rfl⟩

end Prepare

/-- **Orientation is undone exactly.** Whatever the size and the orientation, storing a picture and
turning it upright gives it back. A picture that has been decoded shows exactly one picture; what is
prepared depends on this picture only, not on the orientation in which it is stored. A JPEG is turned by
the orientation that should count, unless one of several numbers or a text is taken for the tag. -/
theorem prepare_shown (bs : Bytes) (size : Int) :
    (∀ {α : Type} (image : Raster α) (o : Nat), (image.stored o).upright o = image) ∧
      (∀ {s : Still} {pixels : Raster Rgba} {tag : Except StillError Nat},
        Still.open bs = .ok s → s.load = .ok (pixels, tag) →
          ∃! image, Shows bs s.format image) ∧
      (∀ {bs' : Bytes} {format format' : Format} {image : Raster Rgba},
        Shows bs format image → Shows bs' format' image →
          prepare bs (some format) size = fillSquare image size ∧
            prepare bs (some format) size = prepare bs' (some format') size) ∧
      ∀ {f : Jpeg.File} {pixels : Raster Rgba},
        Still.open bs = .ok (.jpeg f) → f.load = .ok pixels →
          prepare bs (some .jpeg) size = fillSquare (pixels.upright f.heeded) size ∧
            (f.heeded = f.proper ↔ ¬ f.Loose) := by
  refine ⟨Raster.upright_stored, fun hopen hload => ?_, fun h h' => ?_, fun hopen hload => ?_⟩
  · obtain ⟨image, h⟩ := exists_shows hopen hload
    exact ⟨image, h, fun _ h' => h.unique h'⟩
  · rw [h.prepare_eq, h'.prepare_eq]
    exact ⟨rfl, rfl⟩
  · exact ⟨prepare_jpeg hopen hload size, Jpeg.File.heeded_eq_proper_iff _⟩

/-! ## Four gray squares -/

/-- A JPEG of 16 by 16 gray pixels in four blocks, with a segment of metadata. `coded` are the bytes
of the blocks. -/
def blocksFile (segment coded : Bytes) : Bytes :=
  [0xFF, 0xD8] ++ segment ++ [0xFF, 0xDB, 0, 67, 0] ++ List.replicate 64 8 ++
    [0xFF, 0xC0, 0, 11, 8, 0, 16, 0, 16, 1, 1, 0x11, 0] ++
    [0xFF, 0xC4, 0, 22, 0x00, 1, 1, 1] ++ List.replicate 13 0 ++ [1, 2, 0] ++
    [0xFF, 0xC4, 0, 20, 0x10, 1] ++ List.replicate 15 0 ++ [0] ++
    [0xFF, 0xDA, 0, 8, 1, 1, 0, 0, 63, 0] ++ coded ++ [0xFF, 0xD9]

/-- An EXIF segment whose orientation tag has one or two numbers of two bytes. -/
def exifSegment (count : UInt8) (numbers : Bytes) : Bytes :=
  [0xFF, 0xE1, 0, 34] ++ Exif.mark ++ [0x49, 0x49, 0x2A, 0, 8, 0, 0, 0, 1, 0] ++
    [0x12, 0x01, 3, 0, count, 0, 0, 0] ++ numbers ++ [0, 0, 0, 0]

/-- The picture of four gray squares. -/
def blocks (a b c d : UInt8) : Raster Rgba :=
  Raster.ofFn 16 16 fun x y =>
    let l := #[a, b, c, d].getD (y / 8 * 2 + x / 8) 128
    ⟨l, l, l, 255⟩

/-- What matters of a JPEG here. -/
structure JpegParts where
  size : Nat × Nat
  planes : Except StillError (List Jpeg.Plane)
  tags : Except StillError Tiff.Directory
  text : Option Bytes
  deriving DecidableEq

def jpegParts (bs : Bytes) : Option JpegParts :=
  match Still.open bs with
  | .ok (.jpeg f) =>
    some ⟨(f.frame.width, f.frame.height), f.planes, Exif.readBlock (f.header.exif.getD []),
      f.header.xmp⟩
  | _ => none

section Blocks

variable {a b c d : UInt8} {bs : Bytes} {tags : Except StillError Tiff.Directory}
  {text : Option Bytes}

theorem get?_blocks {x y : Nat} (hx : x < 16) (hy : y < 16) :
    (blocks a b c d).get? x y =
      let l := #[a, b, c, d].getD (y / 8 * 2 + x / 8) 128
      some ⟨l, l, l, 255⟩ :=
  Raster.get?_ofFn hx hy

/-- A quarter turn takes the last row of squares to the left. -/
theorem upright_blocks : (blocks a b c d).upright 6 = blocks c a d b := by
  have hwidth : ((blocks a b c d).upright 6).width = 16 := rfl
  have hheight : ((blocks a b c d).upright 6).height = 16 := rfl
  refine Raster.ext_get? hwidth hheight fun x y hx hy => ?_
  have hsource := Raster.get?_upright (blocks a b c d) hx hy
  rw [hwidth] at hx
  rw [hheight] at hy
  rw [hsource, hwidth, hheight]
  change (blocks a b c d).get? y (16 - 1 - x) = _
  rw [get?_blocks hy (by omega), get?_blocks hx hy]
  obtain hx8 | hx8 : x / 8 = 0 ∧ (16 - 1 - x) / 8 = 1 ∨ x / 8 = 1 ∧ (16 - 1 - x) / 8 = 0 := by omega
  all_goals obtain hy8 | hy8 : y / 8 = 0 ∨ y / 8 = 1 := by omega
  all_goals rw [hx8.1, hx8.2, hy8]; rfl

/-- A JPEG of four blocks with these samples is the picture of four squares. -/
theorem exists_blocks
    (h : jpegParts bs = some ⟨(16, 16), .ok [⟨1, 1, 2, #[a, b, c, d]⟩], tags, text⟩) :
    ∃ f, Still.open bs = .ok (.jpeg f) ∧ f.load = .ok (blocks a b c d) ∧
      Exif.readBlock (f.header.exif.getD []) = tags ∧ f.header.xmp = text := by
  unfold jpegParts at h
  split at h
  · rename_i f hopen
    simp only [Option.some.injEq, JpegParts.mk.injEq, Prod.mk.injEq] at h
    obtain ⟨⟨hwidth, hheight⟩, hplanes, htags, htext⟩ := h
    refine ⟨f, hopen, ?_, htags, htext⟩
    unfold Jpeg.File.load
    rw [hplanes, hwidth, hheight]
    simp [Jpeg.Plane.sample, Jpeg.File.color, blocks, Rgb.opaqueColor, Nat.mod_one]
  · cases h

/-- Four blocks stored in orientation 6, which the tags or the text say. -/
theorem shows_turned_blocks
    (h : jpegParts bs = some ⟨(16, 16), .ok [⟨1, 1, 2, #[a, b, c, d]⟩], tags, text⟩)
    (hgives : ∀ block, Exif.readBlock block = tags → Exif.Gives block text 6) :
    Shows bs .jpeg (blocks c a d b) := by
  obtain ⟨f, hopen, hload, htags, rfl⟩ := exists_blocks h
  have hstored : (blocks c a d b).stored 6 = blocks a b c d := by
    rw [← upright_blocks, Raster.stored_upright]
  exact .tagged hopen (by rw [hstored, hload]) (hgives _ htags) (by decide) (by decide)

/-- Of such blocks, the turned picture is another one than the stored. -/
theorem prepare_turned_ne {d : Tiff.Directory}
    (h : jpegParts bs = some ⟨(16, 16), .ok [⟨1, 1, 2, #[129, 128, 127, 128]⟩], .ok d, text⟩)
    (hgives : ∀ block, Exif.readBlock block = .ok d → Exif.Gives block text 6) :
    ∃ f pixels, Still.open bs = .ok (.jpeg f) ∧ f.load = .ok pixels ∧
      Exif.readBlock (f.header.exif.getD []) = .ok d ∧
      prepare bs (some .jpeg) 16 ≠ fillSquare pixels 16 := by
  obtain ⟨f, hopen, hload, htags, -⟩ := exists_blocks h
  refine ⟨f, _, hopen, hload, htags, ?_⟩
  have hfill (r : Raster Rgba) (hwidth : r.width = 16) (hheight : r.height = 16) :
      fillSquare r 16 = .ok r := congrArg Except.ok (if_pos ⟨hwidth, hheight⟩)
  rw [(shows_turned_blocks h hgives).prepare_eq, hfill _ rfl rfl, hfill _ rfl rfl]
  intro heq
  have hcorner := congrArg (·.get? 0 0) (Except.ok.inj heq)
  simp only [get?_blocks (show 0 < 16 by decide) (show 0 < 16 by decide)] at hcorner
  revert hcorner
  decide

end Blocks

/-- Stored so that the first row is the right side of what is shown. -/
def tiltedFile : Bytes := blocksFile (exifSegment 1 [6, 0, 0, 0]) [0x40, 0x2F]

theorem jpegParts_tiltedFile :
    jpegParts tiltedFile = some ⟨(16, 16), .ok [⟨1, 1, 2, #[129, 128, 127, 128]⟩],
      .ok ⟨[⟨Exif.orientationTag, .numbers [6]⟩]⟩, none⟩ := by
  decide +kernel

/-- The same picture, stored as it is shown. -/
def levelFile : Bytes := blocksFile [] [0x14, 0x19]

theorem tilted_prepare_shown :
    (∃! image, Shows tiltedFile .jpeg image) ∧
      Shows tiltedFile .jpeg (blocks 127 129 128 128) ∧
      Shows levelFile .jpeg (blocks 127 129 128 128) ∧
      prepare tiltedFile (some .jpeg) 100 = fillSquare (blocks 127 129 128 128) 100 ∧
      prepare tiltedFile (some .jpeg) 100 = prepare levelFile (some .jpeg) 100 ∧
      ∃ f, Still.open tiltedFile = .ok (.jpeg f) ∧ f.heeded = f.proper := by
  have htilted : Shows tiltedFile .jpeg (blocks 127 129 128 128) :=
    shows_turned_blocks jpegParts_tiltedFile fun _ htags => ⟨_, htags, .inl ⟨[], rfl⟩⟩
  have hlevel : Shows levelFile .jpeg (blocks 127 129 128 128) := by
    have hparts : jpegParts levelFile = some ⟨(16, 16), .ok [⟨1, 1, 2, #[127, 129, 128, 128]⟩],
        .ok {}, none⟩ := by decide +kernel
    obtain ⟨f, hopen, hload, htags, htext⟩ := exists_blocks hparts
    exact .untagged hopen hload (.missing htags rfl (by rw [htext]; rfl))
  obtain ⟨f, hopen, hload, htags, -⟩ := exists_blocks jpegParts_tiltedFile
  have hproper : ¬ f.Loose := by
    rintro ⟨d, hd, hloose⟩
    cases htags.symm.trans hd
    cases hloose with
    | several htag hmore =>
      cases htag
      exact hmore rfl
    | replaced htag => cases htag
  obtain ⟨-, hunique, hprepare, hturn⟩ := prepare_shown tiltedFile 100
  obtain ⟨hfilled, hsame⟩ := hprepare htilted hlevel
  exact ⟨hunique hopen (load_jpeg hload), htilted, hlevel, hfilled, hsame, f, hopen,
    (hturn hopen hload).2.2 hproper⟩

/-- An orientation tag of two numbers. -/
def doubledFile : Bytes := blocksFile (exifSegment 2 [6, 0, 3, 0]) [0x40, 0x2F]

/-- No orientation tag, but an XMP text. -/
def textFile : Bytes :=
  blocksFile ([0xFF, 0xE1, 0, 51] ++ Jpeg.xmpMark ++ Bytes.ofString "tiff:Orientation=\"6\"")
    [0x40, 0x2F]

/-- **Pictures are turned that have no proper tag.** A tag of two numbers is no orientation, and a tag
that is missing calls for none, but neither leaves the picture as it is stored. -/
theorem loose_tags_turn :
    (∃ f d pixels, Still.open doubledFile = .ok (.jpeg f) ∧ f.load = .ok pixels ∧
        Exif.readBlock (f.header.exif.getD []) = .ok d ∧
        d.value? Exif.orientationTag = some (.numbers [6, 3]) ∧
        prepare doubledFile (some .jpeg) 16 ≠ fillSquare pixels 16) ∧
      ∃ f d pixels, Still.open textFile = .ok (.jpeg f) ∧ f.load = .ok pixels ∧
        Exif.readBlock (f.header.exif.getD []) = .ok d ∧ d.value? Exif.orientationTag = none ∧
        prepare textFile (some .jpeg) 16 ≠ fillSquare pixels 16 := by
  constructor
  · have hparts : jpegParts doubledFile = some ⟨(16, 16), .ok [⟨1, 1, 2, #[129, 128, 127, 128]⟩],
        .ok ⟨[⟨Exif.orientationTag, .numbers [6, 3]⟩]⟩, none⟩ := by decide +kernel
    obtain ⟨f, pixels, hopen, hload, htags, hne⟩ :=
      prepare_turned_ne hparts fun _ htags => ⟨_, htags, .inl ⟨[3], rfl⟩⟩
    exact ⟨f, _, pixels, hopen, hload, htags, rfl, hne⟩
  · have hparts : jpegParts textFile = some ⟨(16, 16), .ok [⟨1, 1, 2, #[129, 128, 127, 128]⟩],
        .ok {}, some (Bytes.ofString "tiff:Orientation=\"6\"")⟩ := by decide +kernel
    have hdigit : Exif.textOrientation? (Bytes.ofString "tiff:Orientation=\"6\"") = some 6 := by
      decide +kernel
    obtain ⟨f, pixels, hopen, hload, htags, hne⟩ :=
      prepare_turned_ne hparts fun _ htags => ⟨_, htags, .inr ⟨rfl, 6, hdigit, rfl⟩⟩
    exact ⟨f, _, pixels, hopen, hload, htags, rfl, hne⟩

end Portrait
