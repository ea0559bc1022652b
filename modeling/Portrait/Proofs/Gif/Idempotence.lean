import Portrait.Avatar.Service
import Portrait.Proofs.Gif.Extent

/-!
# Transcoding a second time

What has been transcoded has the wanted canvas, full palettes and one form for every block. Doing it
again therefore changes no byte, and a stored animation that is uploaded again is stored as it is.

* `ColorTable.padded_padded` — a palette is filled up once.
* `Frame.encode_padded`, `Animation.encode_padded` — nor does filling it up change what is written.
* `format_of_probe` — the gate takes for an animation whatever begins like one.

Main statement: `transcode_again`.
-/

set_option autoImplicit false

namespace Portrait.Gif

/-! ## Palettes that are full -/

namespace ColorTable

variable {palette : Bytes} {n k : Nat}

/-- A table of as many entries as a padded palette has needs no more. -/
theorem padEntries_padEntries (n : Nat) : padEntries (padEntries n) = padEntries n := by
  have hfour : 4 ≤ padEntries n := Nat.le_trans (Nat.le_max_left 4 n) (Nat.le_pow_clog (by decide) _)
  rw [padEntries, Nat.max_eq_right hfour, padEntries, Nat.clog_pow 2 _ (by decide)]

theorem length_padded (h : Whole palette n) : (padded palette).length = 3 * padEntries n := by
  have hle := le_padEntries n
  rw [padded, h.entries, List.length_append, List.length_replicate, h.length]
  omega

/-- A padded palette is full. -/
theorem padded_padded (h : Whole palette n) : padded (padded palette) = padded palette := by
  have hentries : (padded palette).length / 3 = padEntries n := by
    rw [length_padded h]
    omega
  have hmissing : padEntries (padEntries n) - padEntries n = 0 := by
    rw [padEntries_padEntries, Nat.sub_self]
  rw [padded, hentries, hmissing]
  exact List.append_nil _

end ColorTable

/-! ## Writing what has been read -/

namespace Frame

variable {f : Frame}

theorem Encodable.padded (h : f.Encodable) : f.padded.Encodable := by
  obtain ⟨n, hn⟩ := h.palette
  obtain ⟨k, hk⟩ := ColorTable.full_padded hn
  exact
    { width := h.width
      height := h.height
      pixels := h.pixels
      palette := ⟨_, hk.whole⟩
      left := h.left
      top := h.top
      delay := h.delay
      disposal := h.disposal
      transparency := h.transparency }

/-- A frame and the frame with its palette as it is written are compressed alike. -/
theorem compressed_padded (h : f.Encodable) : f.padded.compressed = f.compressed := by
  obtain ⟨n, hn⟩ := h.palette
  simp only [compressed, recoded, Frame.padded, ColorTable.padded_padded hn]
  rfl

/-- They are written alike. -/
theorem encode_padded (h : f.Encodable) : f.padded.encode = f.encode := by
  have hcoded : f.padded.toCoded = f.toCoded := by
    rw [toCoded_eq h.padded, toCoded_eq h, compressed_padded h]
  unfold encode
  rw [hcoded]
  rfl

end Frame

theorem encodeFrames_padded {frames : List Frame} (h : ∀ f ∈ frames, f.Encodable) :
    encodeFrames (frames.map Frame.padded) = encodeFrames frames := by
  induction frames with
  | nil => rfl
  | cons f frames ih =>
    have hf := Frame.encode_padded (h f (by simp))
    have hrest := ih fun g hg => h g (List.mem_cons_of_mem _ hg)
    simp only [List.map_cons, encodeFrames, hf, hrest]

namespace Animation

variable {a : Animation} {data out : Bytes} {size : Int}

/-- An animation that was read back from its own bytes is written as these bytes again. -/
theorem encode_padded (h : a.Encodable) : a.padded.encode = a.encode := by
  have hframes := encodeFrames_padded h.each
  simp only [encode, padded, List.isEmpty_map, hframes]

/-- What was written on a canvas of the wanted size is prepared as it is. -/
theorem prepare_encode (h : a.Encodable) (hw : a.width = size) (hh : a.height = size)
    (hout : a.encode = .ok out) : prepare out size = .ok a.padded := by
  obtain ⟨bs, hencode, hdecode⟩ := exists_encode h
  obtain rfl : bs = out := Except.ok.inj (hencode.symm.trans hout)
  unfold prepare
  rw [hdecode]
  exact if_pos ⟨hw, hh⟩

end Animation

/-- What is transcoded was decoded, and is an animation of the wanted size that was written. -/
theorem exists_of_transcode {data out : Bytes} {size : Int} (hpos : 0 < size)
    (hlimit : size * size ≤ pixelLimit) (hout : transcode data size = .ok out) :
    ∃ b : Animation, b.Encodable ∧ b.width = size ∧ b.height = size ∧ b.encode = .ok out := by
  unfold transcode at hout
  cases hprepare : Animation.prepare data size with
  | error e =>
    rw [hprepare] at hout
    cases hout
  | ok b =>
    rw [hprepare] at hout
    obtain ⟨a, hdecode⟩ : ∃ a, Animation.decode data = .ok a := by
      unfold Animation.prepare at hprepare
      cases hd : Animation.decode data with
      | error e =>
        rw [hd] at hprepare
        cases hprepare
      | ok a => exact ⟨a, rfl⟩
    obtain ⟨b', hprepare', hb, hwidth, hheight, -⟩ :=
      Animation.exists_prepare hdecode hpos hlimit
    obtain rfl : b' = b := Except.ok.inj (hprepare'.symm.trans hprepare)
    exact ⟨b', hb, hwidth, hheight, hout⟩

/-! ## Uploading again -/

/-- The bytes of an animation begin as those of an animation. -/
theorem ofPrefix?_encode {a : Animation} {out : Bytes} (h : a.Encodable)
    (hout : a.encode = .ok out) : Format.ofPrefix? out = some .gif := by
  obtain ⟨f, frames, hf⟩ := List.exists_cons_of_ne_nil h.frames
  obtain ⟨screen, loop, block, more, hscreen, -, -, rfl⟩ :=
    Animation.exists_parts_of_encode hf hout
  unfold screenDescriptor at hscreen
  split at hscreen
  · cases hscreen
    rfl
  · cases hscreen

/-- If the gate lets something pass that begins like an animation, it takes it for one. -/
theorem format_of_probe {bs : Bytes} {least greatest : Int} {p : Probe}
    (h : Format.ofPrefix? bs = some .gif) (hp : probe bs least greatest = .ok p) :
    p.format = .gif := by
  have hopen : ∀ s, Portrait.Still.open bs = .ok s → s.format = .gif := by
    intro s hs
    unfold Portrait.Still.open at hs
    rw [h] at hs
    simp only [Portrait.Still.openAs] at hs
    cases hgif : Still.open bs with
    | error e =>
      rw [hgif] at hs
      cases hs
    | ok g =>
      rw [hgif] at hs
      simp only [Except.map] at hs
      split at hs
      · cases hs
      · cases hs
        rfl
  unfold probe at hp
  split at hp
  · cases hp
  · cases hp
  · rename_i s hs
    dsimp only at hp
    split at hp
    · cases hp
    split at hp
    · cases hp
    cases hp
    exact hopen s hs

/-- **Transcoding a second time changes nothing.** What has been transcoded can be transcoded again,
to the same bytes; and if it is uploaded and gets past the gate, these bytes are what is stored. -/
theorem transcode_again {data out : Bytes} {size : Int} (hsize : 1 ≤ size ∧ size ≤ 2000)
    (hout : transcode data size = .ok out) :
    transcode out size = .ok out ∧
      ∀ (σ : Type) (c : Avatar.Collaborators σ) (s s' : Avatar.Session σ) (settings : Settings)
        (id : Int) (job : Avatar.Commission), settings.avatarSize = size →
        Avatar.craftUpload c s settings id out = (s', .ok job) → job.art = .bytes out := by
  have hlimit : size * size ≤ pixelLimit := by
    have : size * size ≤ 2000 * 2000 :=
      Int.mul_le_mul hsize.2 hsize.2 (by omega) (by decide)
    exact Int.le_trans this (by decide)
  obtain ⟨b, hb, hw, hh, hencode⟩ := exists_of_transcode (by omega) hlimit hout
  have hprepare := Animation.prepare_encode hb hw hh hencode
  have hagain : b.padded.encode = .ok out := (Animation.encode_padded hb).trans hencode
  refine ⟨?_, ?_⟩
  · unfold transcode
    rw [hprepare]
    exact hagain
  · intro σ c s s' settings id job hsettings hjob
    unfold Avatar.craftUpload at hjob
    split at hjob
    · cases hjob
    rename_i p hp
    split at hjob
    · cases hjob
    rw [format_of_probe (ofPrefix?_encode hb hencode) hp] at hjob
    simp only [Avatar.Artwork.ofUpload, Avatar.Artwork.ofAnimation, hsettings, hprepare,
      hagain] at hjob
    cases hjob
    rfl

/-- A file with a canvas of three by three and one pixel in the middle of it, in the second of two
colours, in the older version of the format, without a trailer. -/
def speck : Bytes :=
  signature87 ++ [3, 0, 3, 0, 0x80, 1, 0, 255, 0, 0, 0, 0, 255] ++
    [0x2C, 1, 0, 1, 0, 1, 0, 1, 0, 0, 2, 2, 0x4C, 1, 0]

/-- What `speck` is transcoded to on a canvas of one pixel: that in the middle. The colours are those
of the frame, and four of them. -/
def speckStored : Bytes :=
  signature89 ++ [1, 0, 1, 0, 0, 0, 0] ++ [0x21, 0xF9, 4, 0, 0, 0, 0, 0] ++
    [0x2C, 0, 0, 0, 0, 1, 0, 1, 0, 0x81, 255, 0, 0, 0, 0, 255, 0, 0, 0, 0, 0, 0, 8, 4, 0, 3, 4, 4, 0,
      trailer]

/-- The hypotheses of `transcode_again` hold of a file that is painted anew on a smaller canvas, and so
does its conclusion. -/
theorem speck_transcode_again :
    (speck ≠ speckStored ∧ (Animation.decode speck).map (fun a => (a.width, a.height)) = .ok (3, 3) ∧
      transcode speck 1 = .ok speckStored) ∧
      transcode speckStored 1 = .ok speckStored ∧
        ∀ (σ : Type) (c : Avatar.Collaborators σ) (s s' : Avatar.Session σ) (settings : Settings)
          (id : Int) (job : Avatar.Commission), settings.avatarSize = 1 →
          Avatar.craftUpload c s settings id speckStored = (s', .ok job) →
            job.art = .bytes speckStored := by
  have h : transcode speck 1 = .ok speckStored := by decide +kernel
  exact ⟨⟨by decide, by decide +kernel, h⟩, transcode_again (by decide) h⟩

end Portrait.Gif
