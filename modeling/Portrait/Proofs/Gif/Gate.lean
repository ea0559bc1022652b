import Portrait.Proofs.Gif.Extent
import Portrait.Proofs.Gif.Grammar

/-!
# What the gate measures

Two readers look at an upload. The gate opens it as a still picture, and takes for its size what the
canvas and the first image cover together; the parser, which everything afterwards relies on, takes the
canvas alone. They measure the same if and only if the image lies on the canvas. A canvas is never
larger than the gate allows, but it can be smaller, and even empty.

* `Still.Shows` — the gate has found a frame of the parser.
* `Still.On`, `Still.Spans` — the image that the gate has found lies on the canvas; canvas and image
  together are the size that it reports.
* `Block.Passable` — an extension that the gate gets past as the parser does.
* `findFirst_size` — the size of whatever the gate finds.
* `findFirst_blocks` — behind passable extensions, the gate finds the first image of the parser.

Main statement: `probe_measures_canvas_iff`. `canvas_not_measured` is a file whose canvas is empty and
that passes the gate.
-/

set_option autoImplicit false

namespace Portrait.Gif

/-! ## The image that is found -/

/-- A picture was opened at a frame. -/
structure Still.Shows (s : Still) (f : CodedFrame) : Prop where
  left : s.left = f.left
  top : s.top = f.top
  width : s.frameWidth = f.width
  height : s.frameHeight = f.height

/-- The image lies on the canvas. -/
structure Still.On (s : Still) (c : Container) : Prop where
  right : s.left + s.frameWidth ≤ c.width
  bottom : s.top + s.frameHeight ≤ c.height

/-- A picture is as large as a canvas and its image are together. -/
structure Still.Spans (s : Still) (width height : Nat) : Prop where
  width : s.width = max width (s.left + s.frameWidth)
  height : s.height = max height (s.top + s.frameHeight)

section Found

variable {width height : Nat} {globalPalette : Option Bytes} {transparency : Option UInt8}
  {bs rest : Bytes} {s : Still}

/-- What is in the fields of the image that is read. -/
theorem readFirst_fields {l0 l1 t0 t1 w0 w1 h0 h1 packed : UInt8}
    (h : readFirst width height globalPalette transparency
      (l0 :: l1 :: t0 :: t1 :: w0 :: w1 :: h0 :: h1 :: packed :: rest) = .ok s) :
    s.left = Bytes.ofLE [l0, l1] ∧ s.top = Bytes.ofLE [t0, t1] ∧
      s.frameWidth = Bytes.ofLE [w0, w1] ∧ s.frameHeight = Bytes.ofLE [h0, h1] ∧
      s.Spans width height := by
  unfold readFirst at h
  dsimp only at h
  split at h
  · cases h
  · split at h
    · cases h
    · cases h
      exact ⟨rfl, rfl, rfl, rfl, rfl, rfl⟩

theorem readFirst_size (h : readFirst width height globalPalette transparency bs = .ok s) :
    s.Spans width height := by
  have hread := h
  unfold readFirst at h
  split at h
  · exact (readFirst_fields hread).2.2.2.2
  · cases h

/-- Whatever the search has passed over, the picture is as large as canvas and image are together. -/
theorem findFirst_size (h : findFirst width height globalPalette transparency bs = .ok s) :
    s.Spans width height := by
  fun_induction findFirst width height globalPalette transparency bs with
  | case1 => cases h
  | case2 => cases h
  | case3 => cases h
  | case4 => cases h
  | case5 => rename_i ih; exact ih h
  | case6 => exact readFirst_size h
  | case7 => rename_i ih; exact ih h

end Found

/-! ## The way to the first image -/

/-- The gate gets past the block as the parser does. It takes an empty chain of sub-blocks for one that
goes on, unless it is that of a comment, and so it does a loop extension of one sub-block. -/
def Block.Passable : Block → Prop
  | extension label chunks =>
    (chunks = [] → label = commentLabel) ∧
      ∀ application, chunks = [application] →
        ¬ (label = applicationLabel ∧ loopApplication.isPrefixOf application)
  | image _ _ _ _ => True

section Passing

variable {width height : Nat} {globalTable rest : Bytes} {globalPalette : Option Bytes}
  {transparency : Option UInt8} {label : UInt8} {first : Bytes} {chunks : List Bytes}

/-- What is skipped of a passable extension is what the parser reads of it. -/
theorem skipExtension_encode (hchunks : ∀ c ∈ first :: chunks, SubBlocks.WellFormed c)
    (hpass : (Block.extension label (first :: chunks)).Passable) :
    skipExtension label (some first) (SubBlocks.encode chunks ++ rest) = rest := by
  have hne : first ≠ [] := List.length_pos_iff.1 (hchunks first (by simp)).1
  have hrest : ∀ c ∈ chunks, SubBlocks.WellFormed c :=
    fun c hc => hchunks c (List.mem_cons_of_mem _ hc)
  unfold skipExtension
  dsimp only
  rw [if_neg fun h => hne h.2]
  by_cases hloop : label = applicationLabel ∧ loopApplication.isPrefixOf first
  · rw [if_pos hloop]
    obtain ⟨second, more, rfl⟩ : ∃ second more, chunks = second :: more :=
      List.exists_cons_of_ne_nil fun hnil => hpass.2 first (by rw [hnil]) hloop
    rw [subBlock?_encode (hrest second (by simp))]
    exact skipSubBlocks_encode fun c hc => hrest c (List.mem_cons_of_mem _ hc)
  · rw [if_neg hloop]
    exact skipSubBlocks_encode hrest

/-- The first sub-block of an extension that the parser accepts makes sense to the gate. -/
theorem exists_indexAfter (hlegal : (Block.extension label (first :: chunks)).Legal globalTable) :
    ∃ next, indexAfter transparency label (some first) = .ok next := by
  unfold indexAfter
  dsimp only
  by_cases hgraphic : label = graphicControlLabel
  · obtain ⟨_, _, heq, hfour⟩ := hlegal.2 hgraphic
    cases heq
    rw [if_pos hgraphic]
    obtain ⟨packed, lo, hi, index, more, rfl⟩ :=
      Block.exists_control_fields hfour
    unfold controlIndex
    dsimp only
    split <;> exact ⟨_, rfl⟩
  · rw [if_neg hgraphic]
    exact ⟨_, rfl⟩

/-- **A passable extension is passed over.** -/
theorem findFirst_passable (hlegal : (Block.extension label chunks).Legal globalTable)
    (hpass : (Block.extension label chunks).Passable) :
    ∃ next, findFirst width height globalPalette transparency
        ((Block.extension label chunks).bytes ++ rest) =
      findFirst width height globalPalette next rest := by
  cases chunks with
  | nil =>
    obtain rfl := hpass.1 rfl
    refine ⟨transparency, ?_⟩
    conv_lhs => unfold findFirst
    rfl
  | cons first chunks =>
    obtain ⟨next, hnext⟩ : ∃ next, indexAfter transparency label (some first) = .ok next :=
      exists_indexAfter hlegal
    exact ⟨next, findFirst_extension hlegal.1 hnext (skipExtension_encode hlegal.1 hpass)⟩

/-- An image is the end of the search. -/
theorem findFirst_image {d : Descriptor} {table : Bytes} {minCodeSize : UInt8} {control : Control}
    {s : Still}
    (h : findFirst width height globalPalette transparency
      ((Block.image d table minCodeSize chunks).bytes ++ rest) = .ok s) :
    ∃ f, (Block.image d table minCodeSize chunks).frame? globalTable control = some f ∧
      s.Shows f := by
  obtain ⟨l0, l1, hl, hleft⟩ := field_eq d.left
  obtain ⟨t0, t1, ht, htop⟩ := field_eq d.top
  obtain ⟨w0, w1, hw, hwidth⟩ := field_eq d.width
  obtain ⟨h0, h1, hh, hheight⟩ := field_eq d.height
  refine ⟨_, rfl, ?_⟩
  simp only [Block.bytes, Descriptor.bytes, hl, ht, hw, hh, List.cons_append, List.nil_append,
    List.append_assoc] at h
  unfold findFirst at h
  rw [if_neg (by decide), if_neg (by decide), if_pos rfl] at h
  obtain ⟨hleft', htop', hwidth', hheight', -⟩ := readFirst_fields h
  exact ⟨hleft'.trans hleft, htop'.trans htop, hwidth'.trans hwidth, hheight'.trans hheight⟩

/-- **Behind passable extensions the gate finds the first image of the parser.** -/
theorem findFirst_blocks {before blocks : List Block} {s : Still}
    (hlegal : ∀ b ∈ blocks, b.Legal globalTable) (himage : ∃ b ∈ blocks, b.isExtension = false)
    (hpass : ∀ b ∈ blocks.takeWhile Block.isExtension, b.Passable)
    (h : findFirst width height globalPalette transparency
      (blocks.flatMap Block.bytes ++ rest) = .ok s) :
    ∃ f frames, Block.framesAfter globalTable before blocks = f :: frames ∧ s.Shows f := by
  induction blocks generalizing before transparency with
  | nil =>
    obtain ⟨b, hb, -⟩ := himage
    cases hb
  | cons b blocks ih =>
    rw [List.flatMap_cons, List.append_assoc] at h
    cases b with
    | extension label chunks =>
      rw [List.takeWhile_cons_of_pos rfl] at hpass
      obtain ⟨next, hnext⟩ :=
        findFirst_passable (hlegal _ List.mem_cons_self) (hpass _ List.mem_cons_self)
      rw [hnext] at h
      have hlater : ∃ b ∈ blocks, b.isExtension = false := by
        simpa [Block.isExtension] using himage
      exact ih (fun c hc => hlegal c (List.mem_cons_of_mem _ hc)) hlater
        (fun c hc => hpass c (List.mem_cons_of_mem _ hc)) h
    | image d table minCodeSize chunks =>
      obtain ⟨f, hframe, hshows⟩ : ∃ f, (Block.image d table minCodeSize chunks).frame? globalTable
          (Block.controlAfter before) = some f ∧ s.Shows f := findFirst_image h
      exact ⟨f, _, by rw [Block.framesAfter, hframe]; rfl, hshows⟩

end Passing

/-! ## The gate and the parser -/

section Readers

variable {data : Bytes} {s : Still}

/-- The table that is announced is taken off the front. -/
theorem drop_table {packed : UInt8} {table : Bytes} (rest : Bytes) (h : Announces packed table) :
    (table ++ rest).drop (if packed &&& colorTableFlag = 0 then 0 else ColorTable.byteSize packed) =
      rest := by
  refine List.drop_left' (h.trans ?_)
  rw [ColorTable.byteSize, Nat.one_shiftLeft]

/-- A file behind its signature. -/
theorem drop_signature {l : Layout} (hlegal : l.Legal) :
    l.bytes.drop 6 = field l.width ++ (field l.height ++
      l.packed :: l.background :: l.aspect ::
        (l.table ++ (l.blocks.flatMap Block.bytes ++ l.ending))) := by
  have hsix : l.signature.length = 6 := by
    rcases hlegal.signature with heq | heq <;> rw [heq] <;> rfl
  simp only [Layout.bytes, List.append_assoc]
  rw [List.drop_left' hsix]
  rfl

/-- The search for the first image begins where the blocks of the file begin. -/
theorem exists_findFirst_of_open {l : Layout} (hlegal : l.Legal) (h : Still.open l.bytes = .ok s) :
    ∃ palette, findFirst l.width.toNat l.height.toNat palette none
      (l.blocks.flatMap Block.bytes ++ l.ending) = .ok s := by
  obtain ⟨w0, w1, hw, hwidth⟩ := field_eq l.width
  obtain ⟨h0, h1, hh, hheight⟩ := field_eq l.height
  have hdrop := drop_signature hlegal
  simp only [hw, hh, List.cons_append, List.nil_append] at hdrop
  unfold Still.open at h
  simp only [hdrop, hwidth, hheight, List.drop_succ_cons, List.drop_zero,
    drop_table _ hlegal.table] at h
  split at h
  · cases h
  · rename_i found hfound
    split at h
    · cases h
    · cases h
      exact ⟨_, hfound⟩

/-- A picture that is recognised as an animation was opened as one. -/
theorem open_gif (h : Portrait.Still.open data = .ok (.gif s)) : Still.open data = .ok s := by
  have hmap {α : Type} {e : Except StillError α} {wrap : α → Portrait.Still}
      (hother : ∀ x, wrap x ≠ .gif s) : e.map wrap ≠ .ok (.gif s) := by
    cases e with
    | error e => simp [Except.map]
    | ok x =>
      intro heq
      exact hother x (Except.ok.inj heq)
  have hopened {f : Format} (hf : Portrait.Still.openAs data f = .ok (.gif s)) :
      Still.open data = .ok s := by
    cases f with
    | gif =>
      cases hgif : Still.open data with
      | error e =>
        rw [Portrait.Still.openAs, hgif] at hf
        cases hf
      | ok g =>
        rw [Portrait.Still.openAs, hgif] at hf
        cases hf
        rfl
    | jpeg => exact absurd hf (hmap fun _ => Portrait.Still.noConfusion)
    | png => exact absurd hf (hmap fun _ => Portrait.Still.noConfusion)
    | bmp => exact absurd hf (hmap fun _ => Portrait.Still.noConfusion)
    | tiff => exact absurd hf (hmap fun _ => Portrait.Still.noConfusion)
    | webp => exact absurd hf (hmap fun _ => Portrait.Still.noConfusion)
  unfold Portrait.Still.open at h
  split at h
  · cases h
  split at h
  · cases h
  rename_i opened hread
  split at h
  · cases h
  cases h
  exact hopened hread

variable {least greatest : Int} {w h : Nat}

/-- What passes the gate as an animation was opened, and found neither too small nor too large. -/
theorem exists_open_of_probe (hp : probe data least greatest = .ok ⟨.gif, w, h⟩) :
    ∃ s, Still.open data = .ok s ∧ s.width = w ∧ s.height = h ∧
      (least ≤ w ∧ least ≤ h) ∧ (w : Int) ≤ greatest ∧ (h : Int) ≤ greatest := by
  unfold probe at hp
  split at hp
  · cases hp
  · cases hp
  rename_i opened hopened
  dsimp only at hp
  split at hp
  · cases hp
  rename_i hleast
  split at hp
  · cases hp
  rename_i hgreatest
  obtain ⟨hformat, hwidth, hheight⟩ := Probe.mk.inj (Except.ok.inj hp)
  rw [hwidth, hheight] at hleast hgreatest
  cases opened with
  | gif s => exact ⟨s, open_gif hopened, hwidth, hheight, by omega, by omega⟩
  | jpeg f => cases hformat
  | png f => cases hformat
  | bmp f => cases hformat
  | tiff f => cases hformat
  | webp f => cases hformat

end Readers

/-- An animation has the canvas of its file. -/
theorem canvas_of_decode {data : Bytes} {a : Animation} {c : Container}
    (hdecode : Animation.decode data = .ok a) (hparse : Container.parse data = .ok c) :
    a.width = c.width ∧ a.height = c.height := by
  unfold Animation.decode at hdecode
  rw [hparse] at hdecode
  dsimp only at hdecode
  split at hdecode
  · cases hdecode
  · cases hdecode
    exact ⟨rfl, rfl⟩

/-- **The gate measures the canvas if and only if the image that it finds lies on it.** For it takes
the extent of canvas and image together. The canvas, which the frames of the animation are painted on,
is never too large then; that it is not too small is certain only if the image lies on it. The image
is the first one of the file, if the gate gets past all that stands before that. -/
theorem probe_measures_canvas_iff {data : Bytes} {least greatest : Int} {w h : Nat} {c : Container}
    (hprobe : probe data least greatest = .ok ⟨.gif, w, h⟩) (hparse : Container.parse data = .ok c) :
    ∃ s, Still.open data = .ok s ∧
      w = max c.width (s.left + s.frameWidth) ∧ h = max c.height (s.top + s.frameHeight) ∧
      (c.width = w ∧ c.height = h ↔ s.On c) ∧
      (∀ a, Animation.decode data = .ok a → a.width = c.width ∧ a.height = c.height) ∧
      ((c.width : Int) ≤ greatest ∧ (c.height : Int) ≤ greatest) ∧
      (s.On c → least ≤ c.width ∧ least ≤ c.height) ∧
      ∀ l : Layout, l.Legal → l.bytes = data →
        (∀ b ∈ l.blocks.takeWhile Block.isExtension, b.Passable) →
          ∃ f frames, c.frames = f :: frames ∧ s.Shows f := by
  obtain ⟨s, hopen, rfl, rfl, hleast, hgreatest⟩ := exists_open_of_probe hprobe
  have hfound (l : Layout) (hlegal : l.Legal) (hdata : l.bytes = data) :
      l.container = c ∧ ∃ palette, findFirst l.width.toNat l.height.toNat palette none
        (l.blocks.flatMap Block.bytes ++ l.ending) = .ok s := by
    subst hdata
    exact ⟨Except.ok.inj ((parse_bytes hlegal).symm.trans hparse),
      exists_findFirst_of_open hlegal hopen⟩
  have hspans : s.Spans c.width c.height := by
    obtain ⟨l, hlegal, hdata⟩ := exists_layout_of_parse hparse
    obtain ⟨rfl, palette, hfind⟩ := hfound l hlegal hdata
    exact findFirst_size hfind
  have hwidth := hspans.width
  have hheight := hspans.height
  refine ⟨s, hopen, hwidth, hheight, ?_, fun a ha => canvas_of_decode ha hparse, by omega, ?_, ?_⟩
  · constructor
    · rintro ⟨hw, hh⟩
      exact ⟨by omega, by omega⟩
    · rintro ⟨hright, hbottom⟩
      omega
  · rintro ⟨hright, hbottom⟩
    omega
  · intro l hlegal hdata hpass
    obtain ⟨rfl, palette, hfind⟩ := hfound l hlegal hdata
    exact findFirst_blocks hlegal.blocks hlegal.image hpass hfind

/-- The parts of a file with one pixel, in the corner of its canvas. -/
def cornerLayout : Layout where
  signature := signature89
  width := 100
  height := 100
  packed := 0
  background := 0
  aspect := 0
  table := []
  blocks := [.extension graphicControlLabel [[0, 0, 0, 0]],
    .image ⟨99, 99, 1, 1, 0x81⟩ [255, 0, 0, 0, 0, 0, 0, 0, 0, 0, 0, 0] 8
      [[0, 1, 4, 4]]]
  ending := [trailer]

/-- The hypotheses of `probe_measures_canvas_iff` hold of a file whose image is in the corner of the
canvas, and so does its conclusion. -/
theorem dot_probe_measures_canvas :
    probe (dot 99 99) 50 2000 = .ok ⟨.gif, 100, 100⟩ ∧
      cornerLayout.Legal ∧ cornerLayout.bytes = dot 99 99 ∧
      ∃ c s f, Container.parse (dot 99 99) = .ok c ∧ Still.open (dot 99 99) = .ok s ∧ s.On c ∧
        c.frames.head? = some f ∧ s.Shows f := by
  have hprobe : probe (dot 99 99) 50 2000 = .ok ⟨.gif, 100, 100⟩ := by decide +kernel
  obtain ⟨c, hparse, hwidth, hheight⟩ :
      ∃ c, Container.parse (dot 99 99) = .ok c ∧ c.width = 100 ∧ c.height = 100 :=
    ⟨_, by with_unfolding_all rfl, rfl, rfl⟩
  have hlegal : cornerLayout.Legal :=
    { signature := .inr rfl
      table := rfl
      blocks := by
        intro b hb
        simp only [cornerLayout, List.mem_cons, List.not_mem_nil, or_false] at hb
        rcases hb with rfl | rfl
        · refine ⟨?_, fun _ => ⟨_, _, rfl, by decide⟩⟩
          intro c hc
          obtain rfl := List.mem_singleton.1 hc
          exact ⟨by decide, by decide⟩
        · refine ⟨by decide, by decide, rfl, .inl (by decide), ?_⟩
          intro c hc
          obtain rfl := List.mem_singleton.1 hc
          exact ⟨by decide, by decide⟩
      image := ⟨_, List.mem_cons_of_mem _ List.mem_cons_self, rfl⟩
      ending := .inr ⟨[], rfl⟩ }
  have hpass : ∀ b ∈ cornerLayout.blocks.takeWhile Block.isExtension, b.Passable := by
    intro b hb
    obtain rfl := List.mem_singleton.1 hb
    refine ⟨fun hnil => absurd hnil (by decide), ?_⟩
    intro _ _ happlication
    exact absurd happlication.1 (by decide)
  obtain ⟨s, hopen, -, -, hiff, -, -, -, hfirst⟩ := probe_measures_canvas_iff hprobe hparse
  obtain ⟨f, frames, hframes, hshows⟩ := hfirst _ hlegal rfl hpass
  exact ⟨hprobe, hlegal, rfl, c, s, f, hparse, hopen, hiff.1 ⟨hwidth, hheight⟩,
    by rw [hframes]; rfl, hshows⟩

/-- A file with an empty canvas and one frame of one pixel, in column 99 of row 99. -/
def adrift : Bytes :=
  signature89 ++ [0, 0, 0, 0, 0, 0, 0] ++
    [0x2C, 99, 0, 99, 0, 1, 0, 1, 0, 0x81, 255, 0, 0, 0, 0, 0, 0, 0, 0, 0, 0, 0, 8, 4, 0, 1, 4, 4, 0,
      trailer]

/-- **The gate does not always measure the canvas.** It takes an empty canvas for one of 100 by
100. -/
theorem canvas_not_measured :
    ¬ ∀ (data : Bytes) (least greatest : Int) (w h : Nat) (c : Container), least ≤ greatest →
      probe data least greatest = .ok ⟨.gif, w, h⟩ → Container.parse data = .ok c →
        (c.width = w ∧ c.height = h) ∧ (least ≤ c.width ∧ c.width ≤ greatest) ∧
          least ≤ c.height ∧ c.height ≤ greatest := by
  intro hall
  have hprobe : probe adrift 50 2000 = .ok ⟨.gif, 100, 100⟩ := by decide +kernel
  obtain ⟨c, hparse, hwidth⟩ : ∃ c, Container.parse adrift = .ok c ∧ c.width = 0 :=
    ⟨_, by with_unfolding_all rfl, rfl⟩
  obtain ⟨⟨hmeasured, -⟩, -⟩ := hall _ _ _ _ _ _ (by decide) hprobe hparse
  omega

end Portrait.Gif
