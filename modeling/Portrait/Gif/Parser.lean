import Portrait.Gif.Container

/-!
# Reading GIF containers

`Container.parse` walks the block structure of a GIF: header, optional global color table, then
extensions and images until a trailer byte or the end of the data.

* `Scan.extend` — what an extension changes: graphic control values for the next image, or the loop
  count of the whole animation. Any other extension is skipped.
* `readImage` — an image block after its introducer.
* `scan` — the loop over blocks; every block read makes the rest shorter, which is why it ends.
-/

namespace Portrait.Gif

/-- What has been read so far: frames last first, and the control values waiting for an image. -/
structure Scan where
  loopCount : Option Nat := none
  control : Control := {}
  frames : List CodedFrame := []
  deriving Repr

/-- The control values in the first sub-block of a graphic control extension: a packed byte, the
delay in two bytes, the transparent index. -/
def Control.ofBlock? : Bytes → Option Control
  | packed :: lo :: hi :: index :: _ =>
    some {
      delay := Bytes.ofLE [lo, hi]
      disposal := packed.toNat / 4 % 8
      transparency := if packed.toNat % 2 = 1 then some index else none }
  | _ => none

/-- The loop count in the second sub-block of a loop extension. -/
def loopCountOfBlock? : Bytes → Option Nat
  | 1 :: lo :: hi :: _ => some (Bytes.ofLE [lo, hi])
  | _ => none

/-- The effect of one extension. -/
def Scan.extend (st : Scan) (label : UInt8) (blocks : List Bytes) : Except FormatError Scan :=
  if label = graphicControlLabel then
    match blocks with
    | [] => .error .badGraphicControl
    | first :: _ =>
      match Control.ofBlock? first with
      | none => .error .badGraphicControl
      | some control => .ok { st with control := control }
  else if label = applicationLabel then
    match blocks with
    | first :: second :: _ =>
      if first = loopApplication then
        match loopCountOfBlock? second with
        | none => .ok st
        | some n => .ok { st with loopCount := some n }
      else .ok st
    | _ => .ok st
  else .ok st

/-- The local color table if the descriptor announces one, else the global one. -/
def readPalette (globalPalette : Bytes) (packed : UInt8) (bs : Bytes) :
    Except FormatError (Bytes × Bytes) :=
  if packed &&& colorTableFlag = 0 then .ok (globalPalette, bs)
  else
    match Bytes.takeExact (ColorTable.byteSize packed) bs with
    | none => .error .truncated
    | some r => .ok r

/-- An image block after its introducer, and the rest. -/
def readImage (globalPalette : Bytes) (control : Control) (bs : Bytes) :
    Except FormatError (CodedFrame × Bytes) :=
  match bs with
  | l0 :: l1 :: t0 :: t1 :: w0 :: w1 :: h0 :: h1 :: packed :: rest =>
    match readPalette globalPalette packed rest with
    | .error e => .error e
    | .ok (palette, rest) =>
      if palette = [] then .error .noColorTable
      else if Bytes.ofLE [w0, w1] = 0 ∨ Bytes.ofLE [h0, h1] = 0 then .error .zeroSize
      else
        match rest with
        | [] => .error .truncated
        | minCodeSize :: rest =>
          match SubBlocks.read? rest with
          | none => .error .truncated
          | some (chunks, rest) =>
            .ok ({
              left := Bytes.ofLE [l0, l1]
              top := Bytes.ofLE [t0, t1]
              width := Bytes.ofLE [w0, w1]
              height := Bytes.ofLE [h0, h1]
              interlaced := packed &&& interlaceFlag ≠ 0
              palette := palette
              minCodeSize := minCodeSize
              chunks := chunks
              control := control }, rest)
  | _ => .error .truncated

theorem length_le_of_readPalette {gp bs palette rest : Bytes} {packed : UInt8}
    (h : readPalette gp packed bs = .ok (palette, rest)) : rest.length ≤ bs.length := by
  unfold readPalette at h
  split at h
  · cases h; exact Nat.le_refl _
  · split at h
    · cases h
    · rename_i r hr
      cases h
      have := Bytes.length_of_takeExact hr
      omega

theorem length_lt_of_readImage {gp bs rest : Bytes} {control : Control} {f : CodedFrame}
    (h : readImage gp control bs = .ok (f, rest)) : rest.length < bs.length := by
  unfold readImage at h
  split at h
  · rename_i l0 l1 t0 t1 w0 w1 h0 h1 packed tl
    split at h
    · cases h
    rename_i palette r1 hp
    have h1 := length_le_of_readPalette hp
    split at h
    · cases h
    split at h
    · cases h
    split at h
    · cases h
    rename_i m r2
    split at h
    · cases h
    rename_i chunks r3 hs
    cases h
    have h2 := SubBlocks.length_lt_of_read? hs
    simp only [List.length_cons] at *
    omega
  · cases h

/-- Reads blocks until a trailer byte or the end of the data. -/
def scan (globalPalette : Bytes) (st : Scan) (bs : Bytes) : Except FormatError Scan :=
  match bs with
  | [] => .ok st
  | introducer :: rest =>
    if introducer = trailer then .ok st
    else if introducer = extensionIntroducer then
      match rest with
      | [] => .error .truncated
      | label :: rest =>
        match _hr : SubBlocks.read? rest with
        | none => .error .truncated
        | some (blocks, rest') =>
          match st.extend label blocks with
          | .error e => .error e
          | .ok st' => scan globalPalette st' rest'
    else if introducer = imageIntroducer then
      match _hr : readImage globalPalette st.control rest with
      | .error e => .error e
      | .ok (frame, rest') =>
        scan globalPalette { st with control := {}, frames := frame :: st.frames } rest'
    else .error (.unknownIntroducer introducer)
termination_by bs.length
decreasing_by
  · have := SubBlocks.length_lt_of_read? _hr
    simp only [List.length_cons]
    omega
  · have := length_lt_of_readImage _hr
    simp only [List.length_cons]
    omega

/-- The global color table, empty when the screen descriptor announces none. -/
def readGlobalPalette (packed : UInt8) (bs : Bytes) : Except FormatError (Bytes × Bytes) :=
  readPalette [] packed bs

/-- The block structure of a GIF. -/
def Container.parse (data : Bytes) : Except FormatError Container :=
  match Bytes.takeExact 6 data with
  | none => .error .truncated
  | some (signature, rest) =>
    if signature ≠ signature87 ∧ signature ≠ signature89 then .error .notGif
    else
      match rest with
      | w0 :: w1 :: h0 :: h1 :: packed :: background :: _aspect :: rest =>
        match readGlobalPalette packed rest with
        | .error e => .error e
        | .ok (globalPalette, rest) =>
          match scan globalPalette {} rest with
          | .error e => .error e
          | .ok st =>
            if st.frames = [] then .error .noFrames
            else
              .ok {
                width := Bytes.ofLE [w0, w1]
                height := Bytes.ofLE [h0, h1]
                backgroundIndex := background
                loopCount := st.loopCount
                frames := st.frames.reverse }
      | _ => .error .truncated

end Portrait.Gif
