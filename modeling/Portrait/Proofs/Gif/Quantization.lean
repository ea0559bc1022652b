import Portrait.Proofs.Gif.Compositing

/-!
# What becomes of a pixel on a palette

A pixel is a hole, with the transparent index, or has the index of the nearest visible entry, the
first one of several. What it is compared with is its colour with the low two bits of each channel
cleared, so that entries that are close together are not always told apart.

* `colors`, `visible` — the entries of a palette, and those that a pixel may be matched with.
* `FirstNearest` — the entry that a colour is matched with.
* `Given` — the index that a pixel is given.
* `slots`, `nearestSlot` — the same search in a reduced palette of 256 slots (`Given.eq_lookup`).
* `Unrivalled` — a colour that no other visible entry stands in the way of.

Main statements: no pixel becomes a hole or stops being one (`quantize_keeps_holes`), and a colour of
the palette is kept if and only if it is unrivalled (`keeps_unrivalled_colors`,
`close_color_lost`).
-/

set_option autoImplicit false

namespace Portrait.Gif

/-! ## Entries -/

/-- The colours of a palette. -/
def colors (palette : Bytes) : List Rgb :=
  (ColorTable.triplets palette).map fun (r, g, b) => ⟨r, g, b⟩

/-- The entries of a palette but the transparent one, each with its index. -/
def visible (palette : Bytes) (transparency : Option Int) : List (Rgb × Nat) :=
  (colors palette).zipIdx.filter fun e => transparency ≠ some (e.2 : Int)

/-- The squared distance of an entry from a colour, of which the low two bits of each channel do not
count. -/
def gap (entry color : Rgb) : Nat :=
  squaredGap entry.r.toNat (coarse color.r) + squaredGap entry.g.toNat (coarse color.g) +
    squaredGap entry.b.toNat (coarse color.b)

/-- An entry as a candidate. -/
def Candidate.ofEntry (e : Rgb × Nat) : Candidate := ⟨e.2, e.1.r.toNat, e.1.g.toNat, e.1.b.toNat⟩

section Entries

variable {palette : Bytes} {n : Nat} {transparency : Option Int} {e : Rgb × Nat}

theorem mem_visible : e ∈ visible palette transparency ↔
    (colors palette)[e.2]? = some e.1 ∧ transparency ≠ some (e.2 : Int) := by
  simp [visible, List.mem_zipIdx_iff_getElem?]

theorem length_colors (h : ColorTable.Whole palette n) : (colors palette).length = n := by
  rw [colors, List.length_map, ColorTable.length_triplets h.length]

theorem index_lt (h : ColorTable.Whole palette n) (he : e ∈ visible palette transparency) :
    e.2 < n := by
  obtain ⟨hlt, -⟩ := List.getElem?_eq_some_iff.1 (mem_visible.1 he).1
  rwa [length_colors h] at hlt

/-- Of two entries at most one is transparent. -/
theorem visible_ne_nil (h : ColorTable.Whole palette n) (htwo : 2 ≤ n)
    (transparency : Option Int) : visible palette transparency ≠ [] := by
  have hlength := length_colors h
  intro hnil
  have hhidden : ∀ k, k < n → transparency = some (k : Int) := by
    intro k hk
    by_contra hvisible
    have hmem : ((colors palette).get ⟨k, by omega⟩, k) ∈ visible palette transparency :=
      mem_visible.2 ⟨by simp, hvisible⟩
    rw [hnil] at hmem
    cases hmem
  have hzero := hhidden 0 (by omega)
  have hone := hhidden 1 (by omega)
  rw [hzero] at hone
  simp at hone

/-- Entries come in the order of their indices. -/
theorem pairwise_visible (palette : Bytes) (transparency : Option Int) :
    (visible palette transparency).Pairwise fun d e => d.2 < e.2 := by
  have hindices : ((colors palette).zipIdx.map Prod.snd).Pairwise (· < ·) := by
    rw [List.zipIdx_map_snd]
    exact List.pairwise_lt_range'
  exact (List.pairwise_map.1 hindices).filter _

theorem paletteEntries_eq (palette : Bytes) :
    paletteEntries palette = (colors palette).zipIdx.map Candidate.ofEntry := by
  rw [paletteEntries, colors, List.zipIdx_map, List.map_map]
  rfl

/-- The candidates are the visible entries, if there are any. -/
theorem candidates_eq (h : visible palette transparency ≠ []) :
    candidates palette transparency = (visible palette transparency).map Candidate.ofEntry := by
  have hfilter : (paletteEntries palette).filter
      (fun c => some (Int.ofNat c.index) ≠ transparency) =
        (visible palette transparency).map Candidate.ofEntry := by
    rw [paletteEntries_eq, List.filter_map, visible]
    congr 1
    apply List.filter_congr
    intro e _
    exact decide_eq_decide.2 (not_congr eq_comm)
  simp only [candidates, hfilter]
  rw [if_neg (by simpa using h)]

end Entries

/-! ## The nearest entry -/

/-- The first of the entries that are nearest to a colour. -/
def FirstNearest (color : Rgb) (entries : List (Rgb × Nat)) (e : Rgb × Nat) : Prop :=
  ∃ before after, entries = before ++ e :: after ∧ (∀ d ∈ before, gap e.1 color < gap d.1 color) ∧
    ∀ d ∈ after, gap e.1 color ≤ gap d.1 color

namespace FirstNearest

variable {color : Rgb} {entries : List (Rgb × Nat)} {d e first : Rgb × Nat}

theorem mem (h : FirstNearest color entries e) : e ∈ entries := by
  obtain ⟨before, after, rfl, -, -⟩ := h
  simp

theorem le (h : FirstNearest color entries e) (hd : d ∈ entries) :
    gap e.1 color ≤ gap d.1 color := by
  obtain ⟨before, after, rfl, hbefore, hafter⟩ := h
  rcases List.mem_append.1 hd with hd | hd
  · exact Nat.le_of_lt (hbefore d hd)
  · rcases List.mem_cons.1 hd with rfl | hd
    · exact Nat.le_refl _
    · exact hafter d hd

/-- A nearer entry further down makes the first one irrelevant. -/
theorem cons (h : FirstNearest color entries e) (hfirst : gap e.1 color < gap first.1 color) :
    FirstNearest color (first :: entries) e := by
  obtain ⟨before, after, rfl, hbefore, hafter⟩ := h
  refine ⟨first :: before, after, rfl, ?_, hafter⟩
  intro d hd
  rcases List.mem_cons.1 hd with rfl | hd
  · exact hfirst
  · exact hbefore d hd

/-- So does the first entry with one that is not nearer. -/
theorem insert (h : FirstNearest color (first :: entries) e)
    (hd : gap first.1 color ≤ gap d.1 color) : FirstNearest color (first :: d :: entries) e := by
  obtain ⟨before, after, heq, hbefore, hafter⟩ := h
  cases before with
  | nil =>
    obtain ⟨rfl, rfl⟩ := List.cons.inj heq
    refine ⟨[], d :: entries, rfl, by simp, ?_⟩
    intro d' hd'
    rcases List.mem_cons.1 hd' with rfl | hd'
    · exact hd
    · exact hafter d' hd'
  | cons c before =>
    obtain ⟨rfl, rfl⟩ := List.cons.inj heq
    have hc := hbefore first (by simp)
    refine ⟨first :: d :: before, after, rfl, ?_, hafter⟩
    intro d' hd'
    simp only [List.mem_cons] at hd'
    rcases hd' with rfl | rfl | hd'
    · exact hc
    · exact Nat.lt_of_lt_of_le hc hd
    · exact hbefore d' (by simp [hd'])

end FirstNearest

/-- The search finds the first of the nearest entries. -/
theorem exists_nearestOf (color : Rgb) (first : Rgb × Nat) (entries : List (Rgb × Nat)) :
    ∃ e, FirstNearest color (first :: entries) e ∧
      nearestOf (coarse color.r) (coarse color.g) (coarse color.b) (.ofEntry first)
        (gap first.1 color) (entries.map .ofEntry) = .ofEntry e := by
  induction entries generalizing first with
  | nil => exact ⟨first, ⟨[], [], rfl, by simp, by simp⟩, rfl⟩
  | cons d entries ih =>
    rw [List.map_cons, nearestOf]
    by_cases hcloser : gap d.1 color < gap first.1 color
    · obtain ⟨e, he, hfound⟩ := ih d
      refine ⟨e, he.cons (Nat.lt_of_le_of_lt (he.le (by simp)) hcloser), ?_⟩
      exact (if_pos hcloser).trans hfound
    · obtain ⟨e, he, hfound⟩ := ih first
      refine ⟨e, he.insert (Nat.not_lt.1 hcloser), ?_⟩
      exact (if_neg hcloser).trans hfound

/-! ## The reduced palette -/

/-- The slots of the palette that is searched: the entries, and copies of the first one up to 256. -/
def slots (entries : List (Rgb × Nat)) : List (Rgb × Nat) :=
  entries ++ List.replicate (256 - entries.length) (entries.headD (⟨0, 0, 0⟩, 0))

theorem findIdx_append_cons {near : Rgb → Bool} {before after : List Rgb} {c : Rgb}
    (hfar : ∀ d ∈ before, near d = false) (hnear : near c = true) :
    (before ++ c :: after).findIdx near = before.length := by
  rw [List.findIdx_append, List.findIdx_eq_length_of_false hfar, if_neg (Nat.lt_irrefl _),
    List.findIdx_cons, hnear]
  exact Nat.zero_add _

/-- The number of the first slot that is nearest to a colour. -/
def nearestSlot (color : Rgb) (slots : List Rgb) : Nat :=
  slots.findIdx fun c => decide (∀ d ∈ slots, gap c color ≤ gap d color)

namespace FirstNearest

variable {color : Rgb} {entries : List (Rgb × Nat)} {e : Rgb × Nat}

/-- Copies of the first entry behind all others are never chosen. -/
theorem slots (h : FirstNearest color entries e) : FirstNearest color (slots entries) e := by
  have hle {d : Rgb × Nat} : d ∈ entries → gap e.1 color ≤ gap d.1 color := h.le
  obtain ⟨before, after, heq, hbefore, hafter⟩ := h
  have hhead : entries.headD (⟨0, 0, 0⟩, 0) ∈ entries := by
    rw [heq]
    cases before <;> simp
  refine ⟨before, after ++ List.replicate (256 - entries.length) (entries.headD (⟨0, 0, 0⟩, 0)), ?_,
    hbefore, ?_⟩
  · rw [Gif.slots]
    conv_lhs => rw [heq]
    simp [heq]
  · intro d hd
    rcases List.mem_append.1 hd with hd | hd
    · exact hafter d hd
    · rw [List.eq_of_mem_replicate hd]
      exact hle hhead

/-- The first of the nearest slots is that of the entry. -/
theorem getElem?_nearestSlot (h : FirstNearest color entries e) :
    entries[nearestSlot color (entries.map Prod.fst)]? = some e := by
  have hle {d : Rgb × Nat} : d ∈ entries → gap e.1 color ≤ gap d.1 color := h.le
  obtain ⟨before, after, heq, hbefore, -⟩ := h
  have hsplit : entries.map Prod.fst = before.map Prod.fst ++ e.1 :: after.map Prod.fst := by
    simp [heq]
  have hfar : ∀ c ∈ before.map Prod.fst,
      decide (∀ d ∈ entries.map Prod.fst, gap c color ≤ gap d color) = false := by
    intro c hc
    obtain ⟨d, hd, rfl⟩ := List.mem_map.1 hc
    rw [decide_eq_false_iff_not]
    intro hnearest
    have := hnearest e.1 (by simp [hsplit])
    have := hbefore d hd
    omega
  have hnear : decide (∀ d ∈ entries.map Prod.fst, gap e.1 color ≤ gap d color) = true := by
    rw [decide_eq_true_iff]
    intro c hc
    obtain ⟨d, hd, rfl⟩ := List.mem_map.1 hc
    exact hle hd
  have hslot : nearestSlot color (entries.map Prod.fst) = before.length := by
    calc nearestSlot color (entries.map Prod.fst)
        = (before.map Prod.fst ++ e.1 :: after.map Prod.fst).findIdx
            (fun c => decide (∀ d ∈ entries.map Prod.fst, gap c color ≤ gap d color)) := by
          rw [← hsplit, nearestSlot]
      _ = (before.map Prod.fst).length := findIdx_append_cons hfar hnear
      _ = before.length := List.length_map _
  rw [hslot, heq]
  simp

end FirstNearest

/-! ## The index of a pixel -/

/-- The index that a pixel is given. -/
inductive Given (palette : Bytes) (transparency : Option Int) (p : Rgba) : UInt8 → Prop
  /-- A hole has the transparent index. -/
  | hole {t : Int} (ht : transparency = some t) (ha : p.a = 0) :
      Given palette transparency p (Raster.clipByte t)
  /-- Any other pixel has the index of the nearest visible entry. -/
  | matched {e : Rgb × Nat} {i : UInt8} (ha : transparency ≠ none → p.a ≠ 0)
      (he : FirstNearest p.rgb (visible palette transparency) e) (hi : i.toNat = e.2) :
      Given palette transparency p i

section Quantize

variable {palette : Bytes} {n : Nat} {transparency : Option Int}

/-- **Every pixel is given its index.** -/
theorem quantize_gives (h : ColorTable.Whole palette n) (hvisible : visible palette transparency ≠ [])
    (image : Raster Rgba) :
    ∃ out, quantize image palette transparency = .ok out ∧ out.width = image.width ∧
      out.height = image.height ∧
      ∀ x y p, image.get? x y = some p →
        ∃ i, out.get? x y = some i ∧ Given palette transparency p i := by
  have hsize : ¬ 256 < (ColorTable.triplets palette).length := by
    rw [ColorTable.length_triplets h.length]
    exact Nat.not_lt.2 h.le
  obtain ⟨first, entries, hentries⟩ := List.exists_cons_of_ne_nil hvisible
  have hcandidates : candidates palette transparency =
      .ofEntry first :: entries.map .ofEntry := by
    rw [candidates_eq hvisible, hentries, List.map_cons]
  have hmatch (color : Rgb) : ∃ e, FirstNearest color (visible palette transparency) e ∧
      (matchColor (.ofEntry first) (entries.map .ofEntry) color).toNat = e.2 := by
    obtain ⟨e, he, hfound⟩ := exists_nearestOf color first entries
    rw [← hentries] at he
    have hlt : e.2 < 256 := Nat.lt_of_lt_of_le (index_lt h he.mem) h.le
    refine ⟨e, he, ?_⟩
    have hindex : matchColor (.ofEntry first) (entries.map .ofEntry) color = UInt8.ofNat e.2 :=
      congrArg (fun c : Candidate => UInt8.ofNat c.index) hfound
    rw [hindex, UInt8.toNat_ofNat', Nat.mod_eq_of_lt hlt]
  simp only [quantize, if_neg hsize, hcandidates]
  refine ⟨_, rfl, rfl, rfl, ?_⟩
  intro x y p hp
  rw [Raster.get?_map, hp, Option.map_some]
  refine ⟨_, rfl, ?_⟩
  obtain ⟨e, he, hi⟩ := hmatch p.rgb
  cases transparency with
  | none => exact .matched (by simp) he hi
  | some t =>
    dsimp only
    by_cases ha : p.a = 0
    · rw [if_pos ha]
      exact .hole rfl ha
    · rw [if_neg ha]
      exact .matched (fun _ => ha) he hi

/-- **The reduced palette gives the same index**: the first of the nearest of its 256 slots, translated
back by the indices of the slots. -/
theorem Given.eq_lookup {p : Rgba} {i : UInt8} (h : Given palette transparency p i)
    (ha : transparency ≠ none → p.a ≠ 0) :
    ((slots (visible palette transparency)).map Prod.snd)[nearestSlot p.rgb
      ((slots (visible palette transparency)).map Prod.fst)]? = some i.toNat := by
  cases h with
  | hole ht hclear => exact absurd hclear (ha (by simp [ht]))
  | matched _ he hi => rw [List.getElem?_map, he.slots.getElem?_nearestSlot, Option.map_some, hi]

/-- **No pixel becomes a hole or stops being one.** A pixel has the transparent index if and only if
it was fully transparent and there is a transparent index; any other one has that of a visible entry
of the palette. -/
theorem quantize_keeps_holes (h : ColorTable.Whole palette n) (htwo : 2 ≤ n)
    (ht : FitsByte transparency) (image : Raster Rgba) :
    ∃ out, quantize image palette transparency = .ok out ∧ out.width = image.width ∧
      out.height = image.height ∧
      ∀ x y p, image.get? x y = some p → ∃ i, out.get? x y = some i ∧
        (transparency = some (i.toNat : Int) ↔ transparency ≠ none ∧ p.a = 0) ∧
        (¬ (transparency ≠ none ∧ p.a = 0) →
          i.toNat < n ∧ transparency ≠ some (i.toNat : Int)) := by
  obtain ⟨out, hout, hwidth, hheight, hgiven⟩ :=
    quantize_gives h (visible_ne_nil h htwo transparency) image
  refine ⟨out, hout, hwidth, hheight, ?_⟩
  intro x y p hp
  obtain ⟨i, hi, hgives⟩ := hgiven x y p hp
  refine ⟨i, hi, ?_⟩
  cases hgives with
  | @hole t htransparent ha =>
    obtain ⟨hlow, hhigh⟩ := ht t htransparent
    have hindex : ((Raster.clipByte t).toNat : Int) = t := by
      rw [Raster.clipByte, if_neg (by omega), if_neg (by omega), UInt8.toNat_ofNat']
      omega
    rw [hindex, htransparent]
    simp [ha]
  | @matched e _ ha he hindex =>
    have hseen := (mem_visible.1 he.mem).2
    have hopaque : ¬ (transparency ≠ none ∧ p.a = 0) := fun hhole => ha hhole.1 hhole.2
    rw [hindex]
    exact ⟨iff_of_false hseen hopaque, fun _ => ⟨index_lt h he.mem, hseen⟩⟩

/-- An opaque pixel in the colour of the transparent entry, and a hole in the colour of the other. -/
theorem twilight_keeps_holes :
    ColorTable.Whole [0, 0, 0, 30, 30, 30] 2 ∧ FitsByte (some 0) ∧
      ∃ out, quantize
          (Raster.ofFn 2 1 fun x _ => if x = 0 then ⟨0, 0, 0, 255⟩ else ⟨30, 30, 30, 0⟩)
          [0, 0, 0, 30, 30, 30] (some 0) = .ok out ∧
        out.get? 0 0 = some 1 ∧ out.get? 1 0 = some 0 := by
  have h : ColorTable.Whole [0, 0, 0, 30, 30, 30] 2 := ⟨by decide, by decide, rfl⟩
  have ht : FitsByte (some 0) := by
    intro t ht
    cases ht
    decide
  obtain ⟨out, hout, -, -, hindex⟩ := quantize_keeps_holes h (Nat.le_refl 2) ht
    (Raster.ofFn 2 1 fun x _ => if x = 0 then ⟨0, 0, 0, 255⟩ else ⟨30, 30, 30, 0⟩)
  obtain ⟨i, hi, -, hvisible⟩ := hindex 0 0 ⟨0, 0, 0, 255⟩ (by decide)
  obtain ⟨j, hj, hhole, -⟩ := hindex 1 0 ⟨30, 30, 30, 0⟩ (by decide)
  obtain ⟨hlt, hne⟩ := hvisible (by decide)
  have hzero := hhole.2 (by decide)
  refine ⟨h, ht, out, hout, ?_, ?_⟩
  · rw [hi, ← UInt8.ofNat_toNat (x := i), show i.toNat = 1 by simp at hne; omega]
    rfl
  · rw [hj, ← UInt8.ofNat_toNat (x := j), show j.toNat = 0 by simp at hzero; omega]
    rfl

end Quantize

/-! ## Colours that are kept -/

/-- Every channel is a multiple of four. -/
def IsCoarse (color : Rgb) : Prop :=
  color.r.toNat % 4 = 0 ∧ color.g.toNat % 4 = 0 ∧ color.b.toNat % 4 = 0

/-- Two channels that are at least nine apart. -/
def Apart (a b : UInt8) : Prop := a.toNat + 9 ≤ b.toNat ∨ b.toNat + 9 ≤ a.toNat

instance (a b : UInt8) : Decidable (Apart a b) :=
  inferInstanceAs (Decidable (_ ∨ _))

/-- A colour of the palette without a rival: to what is left of it without its low bits, no visible
entry of another colour is nearer than its own, or as near and before it. -/
def Unrivalled (palette : Bytes) (transparency : Option Int) (color : Rgb) : Prop :=
  ∃ e ∈ visible palette transparency, e.1 = color ∧
    ∀ d ∈ visible palette transparency, d.1 ≠ color →
      gap e.1 color < gap d.1 color ∨ gap e.1 color = gap d.1 color ∧ e.2 < d.2

instance (palette : Bytes) (transparency : Option Int) (color : Rgb) :
    Decidable (Unrivalled palette transparency color) :=
  inferInstanceAs (Decidable (∃ e ∈ visible palette transparency, _ ∧ _))

section Kept

variable {palette : Bytes} {n : Nat} {transparency : Option Int} {color : Rgb} {e : Rgb × Nat}

/-- A colour of the palette is matched with itself if and only if it is unrivalled. -/
theorem FirstNearest.eq_iff (h : FirstNearest color (visible palette transparency) e) :
    e.1 = color ↔ Unrivalled palette transparency color := by
  have hsorted := pairwise_visible palette transparency
  constructor
  · intro heq
    refine ⟨e, h.mem, heq, ?_⟩
    intro d hd hne
    obtain ⟨before, after, hsplit, hbefore, hafter⟩ := h
    rw [hsplit] at hd hsorted
    rcases List.mem_append.1 hd with hd | hd
    · exact .inl (hbefore d hd)
    rcases List.mem_cons.1 hd with rfl | hd
    · exact absurd heq hne
    have hindex := (List.pairwise_cons.1 (List.pairwise_append.1 hsorted).2.1).1 d hd
    rcases Nat.lt_or_eq_of_le (hafter d hd) with hlt | heq'
    · exact .inl hlt
    · exact .inr ⟨heq', hindex⟩
  · rintro ⟨c, hc, hown, hrivals⟩
    by_contra hne
    have hle := h.le hc
    rcases hrivals e h.mem hne with hlt | ⟨heq, hindex⟩
    · omega
    -- the entry of the colour comes first, so that it would have been chosen
    obtain ⟨before, after, hsplit, hbefore, -⟩ := h
    rw [hsplit] at hc hsorted
    rcases List.mem_append.1 hc with hc | hc
    · have := hbefore c hc
      omega
    rcases List.mem_cons.1 hc with rfl | hc
    · omega
    · have := (List.pairwise_cons.1 (List.pairwise_append.1 hsorted).2.1).1 c hc
      omega

/-! ### Distances -/

theorem squaredGap_le (c : UInt8) : squaredGap c.toNat (coarse c) ≤ 9 := by
  have hlow : c.toNat - coarse c ≤ 3 := by
    rw [coarse]
    omega
  have hhigh : coarse c - c.toNat = 0 := by
    rw [coarse]
    omega
  have := Nat.mul_le_mul hlow hlow
  rw [squaredGap, hhigh]
  omega

theorem le_squaredGap {a b k : Nat} (h : a + k ≤ b ∨ b + k ≤ a) : k * k ≤ squaredGap a b := by
  rw [squaredGap]
  rcases h with h | h
  · have hk : k ≤ b - a := by omega
    have := Nat.mul_le_mul hk hk
    omega
  · have hk : k ≤ a - b := by omega
    have := Nat.mul_le_mul hk hk
    omega

theorem squaredGap_pos {a b : Nat} (h : a ≠ b) : 0 < squaredGap a b :=
  le_squaredGap (k := 1) (by omega)

theorem squaredGap_self (a : Nat) : squaredGap a a = 0 := by simp [squaredGap]

/-- A channel that is far from another one is far from it without its low bits. -/
theorem Apart.le_squaredGap {a b : UInt8} (h : Apart a b) : 36 ≤ squaredGap a.toNat (coarse b) := by
  have hcoarse : coarse b ≤ b.toNat ∧ b.toNat ≤ coarse b + 3 := by
    rw [coarse]
    omega
  refine Gif.le_squaredGap (k := 6) ?_
  rcases h with h | h <;> omega

/-- A colour is not far from itself without the low bits. -/
theorem gap_self_le (color : Rgb) : gap color color ≤ 27 := by
  have := squaredGap_le color.r
  have := squaredGap_le color.g
  have := squaredGap_le color.b
  rw [gap]
  omega

theorem unrivalled_of_gap_lt (hcolor : color ∈ (visible palette transparency).map Prod.fst)
    (h : ∀ d ∈ visible palette transparency, d.1 ≠ color → gap color color < gap d.1 color) :
    Unrivalled palette transparency color := by
  obtain ⟨e, he, rfl⟩ := List.mem_map.1 hcolor
  exact ⟨e, he, rfl, fun d hd hne => .inl (h d hd hne)⟩

/-- A colour of multiples of four is unrivalled. -/
theorem unrivalled_of_isCoarse (hcolor : color ∈ (visible palette transparency).map Prod.fst)
    (h : IsCoarse color) : Unrivalled palette transparency color := by
  have hown {c : UInt8} (hc : c.toNat % 4 = 0) : coarse c = c.toNat := by
    rw [coarse]
    omega
  obtain ⟨hr, hg, hb⟩ := h
  refine unrivalled_of_gap_lt hcolor ?_
  intro d _ hne
  have hself : gap color color = 0 := by
    simp only [gap, hown hr, hown hg, hown hb, squaredGap_self]
  rw [hself, gap, hown hr, hown hg, hown hb]
  by_contra hzero
  have hchannel {a b : UInt8} (hgap : ¬ 0 < squaredGap a.toNat b.toNat) : a = b := by
    by_contra hdifferent
    exact hgap (squaredGap_pos fun h => hdifferent (UInt8.toNat_inj.1 h))
  apply hne
  have hr' : d.1.r = color.r := hchannel (by omega)
  have hg' : d.1.g = color.g := hchannel (by omega)
  have hb' : d.1.b = color.b := hchannel (by omega)
  calc d.1 = ⟨d.1.r, d.1.g, d.1.b⟩ := rfl
    _ = color := by rw [hr', hg', hb']

/-- A colour that is far from all others is unrivalled. -/
theorem unrivalled_of_apart (hcolor : color ∈ (visible palette transparency).map Prod.fst)
    (h : ∀ d ∈ visible palette transparency, d.1 ≠ color →
      Apart d.1.r color.r ∨ Apart d.1.g color.g ∨ Apart d.1.b color.b) :
    Unrivalled palette transparency color := by
  refine unrivalled_of_gap_lt hcolor ?_
  intro d hd hne
  have hself := gap_self_le color
  have hother : 36 ≤ gap d.1 color := by
    rw [gap]
    rcases h d hd hne with h | h | h
    · have := h.le_squaredGap
      omega
    · have := h.le_squaredGap
      omega
    · have := h.le_squaredGap
      omega
  omega

/-! ### Pixels -/

/-- A pixel in a colour of the palette keeps it if and only if it is unrivalled. -/
theorem Given.color_iff {p : Rgba} {i : UInt8} (h : Given palette transparency p i) (ha : p.a ≠ 0) :
    (colors palette)[i.toNat]? = some p.rgb ↔ Unrivalled palette transparency p.rgb := by
  cases h with
  | hole _ hclear => exact absurd hclear ha
  | @matched e _ _ he hi =>
    rw [hi, (mem_visible.1 he.mem).1, Option.some_inj]
    exact he.eq_iff

end Kept

/-! ### Frames -/

section Frames

variable {palette : Bytes} {transparency : Option Int} {e : Rgb × Nat} {f g : Frame}

/-- A visible entry is shown in its colour. -/
theorem paletteColor_of_mem {i : UInt8} (he : e ∈ visible palette transparency)
    (hi : i.toNat = e.2) :
    paletteColor (ColorTable.triplets palette).toArray transparency i =
      ⟨e.1.r, e.1.g, e.1.b, 255⟩ := by
  obtain ⟨hentry, hseen⟩ := mem_visible.1 he
  rw [colors, List.getElem?_map, Option.map_eq_some_iff] at hentry
  obtain ⟨⟨r, g, b⟩, htriplet, hcolor⟩ := hentry
  have hlookup : (ColorTable.triplets palette).toArray.getD i.toNat (0, 0, 0) = (r, g, b) := by
    rw [Array.getD_eq_getD_getElem?, List.getElem?_toArray, hi, htriplet, Option.getD_some]
  have hopaque : ¬ transparency = some (Int.ofNat i.toNat) := by
    rw [hi]
    exact hseen
  simp only [paletteColor, hlookup, if_neg hopaque, ← hcolor]

/-- A frame shows a pixel fully or not at all. -/
theorem Frame.Paintable.alpha_colorAt (h : f.Paintable) (x y : Nat) :
    (f.colorAt x y).a = 0 ∨ (f.colorAt x y).a = 255 := by
  obtain ⟨n, hn⟩ := h.palette
  simp only [colorAt, toRgba_eq hn h.transparency, Raster.getD, Raster.get?_map]
  cases f.image.get? (x - f.left).toNat (y - f.top).toNat with
  | none => exact .inl rfl
  | some i =>
    simp only [Option.map_some, Option.getD_some, paletteColor]
    split
    · exact .inl rfl
    · exact .inr rfl

variable {sampling : Nat → Nat → Option (Nat × Nat)} {size : Nat} {before : List Frame}

theorem Frame.Shows.paintable (h : f.Shows sampling size before g) (hf : f.Paintable) :
    g.Paintable := by
  obtain ⟨n, hn⟩ := hf.palette
  rw [h.kept]
  exact ⟨⟨n, hn⟩, hf.transparency⟩

/-- A fitted frame shows a colour of its own palette in a pixel of its own if and only if the colour is
unrivalled. -/
theorem Frame.Shows.color_iff (h : f.Shows sampling size (before ++ [f]) g) (hf : f.Paintable)
    {shown : Raster Rgba} (hshown : g.toRgba = .ok shown) {x y sx sy : Nat} (hx : x < size)
    (hy : y < size) (hsource : sampling x y = some (sx, sy)) (hcovers : f.Covers sx sy)
    (ha : (f.colorAt sx sy).a ≠ 0)
    (hcolor : (f.colorAt sx sy).rgb ∈ (visible f.palette f.transparency).map Prod.fst) :
    shown.get? x y = some (f.colorAt sx sy) ↔
      Unrivalled f.palette f.transparency (f.colorAt sx sy).rgb := by
  have hfull : (f.colorAt sx sy).a = 255 := (hf.alpha_colorAt sx sy).resolve_left ha
  have hcanvas : sampled sampling (before ++ [f]) x y = f.colorAt sx sy := by
    simp only [sampled, hsource, canvasAt_concat, if_pos hcovers]
  generalize f.colorAt sx sy = c at *
  obtain ⟨n, hn⟩ := hf.palette
  obtain ⟨i, hi, hquantized⟩ := h.index x y hx hy
  rw [hcanvas] at hquantized
  obtain ⟨d, hd, -⟩ := List.mem_map.1 hcolor
  obtain ⟨out, hout, -, -, hgives⟩ :=
    quantize_gives hn (List.ne_nil_of_mem hd) (Raster.filled 1 1 c)
  obtain rfl := Except.ok.inj (hquantized.symm.trans hout)
  obtain ⟨j, hj, hgiven⟩ := hgives 0 0 c (Raster.get?_filled (by decide) (by decide))
  rw [Raster.get?_filled (by decide) (by decide)] at hj
  obtain rfl := Option.some.inj hj
  have hpixel : shown.get? x y = some
      (paletteColor (ColorTable.triplets f.palette).toArray f.transparency i) := by
    have hpalette : g.palette = f.palette := by rw [h.kept]
    have htransparency : g.transparency = f.transparency := by rw [h.kept]
    have hcolors := toRgba_eq (f := g) (hpalette ▸ hn) (htransparency ▸ hf.transparency)
    rw [hshown] at hcolors
    rw [Except.ok.inj hcolors, Raster.get?_map, hi, hpalette, htransparency, Option.map_some]
  rw [hpixel, Option.some_inj]
  cases hgiven with
  | hole _ hclear => exact absurd hclear ha
  | @matched e _ _ he hindex =>
    rw [paletteColor_of_mem he.mem hindex, ← he.eq_iff]
    cases c
    cases e with
    | mk color k =>
      cases color
      dsimp only at hfull
      simp [Rgba.rgb, hfull]

end Frames

/-- A target position that is sampled is on the square. -/
theorem sampling_on_square {width height size x y sx sy : Nat}
    (h : Raster.sampling width height size x y = some (sx, sy)) : x < size ∧ y < size := by
  by_contra hout
  have hnone : (Raster.sampleMap width height size).get? x y = none := Raster.get?_eq_none hout
  rw [Raster.sampling, hnone] at h
  cases h

/-- **A colour of the palette is kept if and only if it is unrivalled.** An opaque pixel in the colour
of a visible entry is given an entry of that colour just then. All colours of multiples of four
are unrivalled, and so are those that are far from all others. A fitted frame shows a colour of its
own palette, in a pixel of its own, on the same condition. -/
theorem keeps_unrivalled_colors :
    (∀ (palette : Bytes) (n : Nat) (transparency : Option Int) (image : Raster Rgba),
      ColorTable.Whole palette n → ∃ out, quantize image palette transparency = .ok out ∧
        ∀ x y p, image.get? x y = some p → p.a ≠ 0 →
          p.rgb ∈ (visible palette transparency).map Prod.fst → ∃ i, out.get? x y = some i ∧
            ((colors palette)[i.toNat]? = some p.rgb ↔ Unrivalled palette transparency p.rgb)) ∧
    (∀ (palette : Bytes) (transparency : Option Int) (color : Rgb),
      color ∈ (visible palette transparency).map Prod.fst →
        (IsCoarse color ∨ ∀ d ∈ visible palette transparency, d.1 ≠ color →
          Apart d.1.r color.r ∨ Apart d.1.g color.g ∨ Apart d.1.b color.b) →
        Unrivalled palette transparency color) ∧
    ∀ (width height size : Int) (a : Animation), 0 < width → 0 < height → 0 < size →
      ¬ (width = size ∧ height = size) → a.PaintedOn width height →
      ∃ frames, a.fit size = .ok { a with width := size, height := size, frames := frames } ∧
        ∀ (k : Nat) (f g : Frame), a.frames[k]? = some f → frames[k]? = some g →
          ∃ shown, g.toRgba = .ok shown ∧ ∀ x y sx sy,
            Raster.sampling width.toNat height.toNat size.toNat x y = some (sx, sy) →
            f.Covers sx sy → (f.colorAt sx sy).a ≠ 0 →
            (f.colorAt sx sy).rgb ∈ (visible f.palette f.transparency).map Prod.fst →
              (shown.get? x y = some (f.colorAt sx sy) ↔
                Unrivalled f.palette f.transparency (f.colorAt sx sy).rgb) := by
  refine ⟨?_, ?_, ?_⟩
  · intro palette n transparency image h
    by_cases hvisible : visible palette transparency = []
    · obtain ⟨index, hindex⟩ := quantize_pixelwise h transparency
      refine ⟨image.map index, hindex image, ?_⟩
      intro x y p _ _ hcolor
      rw [hvisible] at hcolor
      cases hcolor
    · obtain ⟨out, hout, -, -, hgives⟩ := quantize_gives h hvisible image
      refine ⟨out, hout, ?_⟩
      intro x y p hp ha _
      obtain ⟨i, hi, hgiven⟩ := hgives x y p hp
      exact ⟨i, hi, hgiven.color_iff ha⟩
  · rintro palette transparency color hcolor (hcoarse | hapart)
    · exact unrivalled_of_isCoarse hcolor hcoarse
    · exact unrivalled_of_apart hcolor hapart
  · intro width height size a hwidth hheight hsize hother ha
    obtain ⟨frames, hfit, hshow⟩ := Animation.exists_fit_show (Int.le_of_lt hwidth) (Int.le_of_lt hheight) hsize hother ha
    refine ⟨frames, hfit, ?_⟩
    intro k f g hf hg
    have hpaintable := ha.each f (List.mem_of_getElem? hf)
    have hshows := hshow.shows_getElem hf hg
    have htake : [] ++ a.frames.take (k + 1) = a.frames.take k ++ [f] := by
      rw [List.nil_append, List.take_add_one, hf, Option.toList_some]
    rw [htake] at hshows
    obtain ⟨shown, hshown, -, -⟩ := (hshows.paintable hpaintable).exists_colors
    refine ⟨shown, hshown, ?_⟩
    intro x y sx sy hsource hcovers halpha hcolor
    obtain ⟨hx, hy⟩ := sampling_on_square hsource
    exact hshows.color_iff hpaintable hshown hx hy hsource hcovers halpha hcolor

/-- A single frame of three pixels in a row, all of them opaque. -/
def Animation.flag : Animation :=
  { width := 3
    height := 1
    frames := [{ image := ⟨3, 1, #[1, 0, 1], rfl⟩, palette := [0, 0, 254, 255, 0, 0] }] }

/-- Of two dark shades the brighter one is lost, while the middle pixel of a fitted frame keeps its
colour. -/
theorem shades_keep_colors :
    ColorTable.Whole [0, 0, 0, 1, 0, 0] 2 ∧
      (∃ out, quantize (Raster.filled 1 1 ⟨1, 0, 0, 255⟩) [0, 0, 0, 1, 0, 0] none = .ok out ∧
        ∃ i, out.get? 0 0 = some i ∧ (colors [0, 0, 0, 1, 0, 0])[i.toNat]? ≠ some ⟨1, 0, 0⟩) ∧
      Unrivalled [0, 0, 254, 255, 0, 0] none ⟨0, 0, 254⟩ ∧
      Animation.flag.PaintedOn 3 1 ∧
      ∃ frames, Animation.flag.fit 2 =
          .ok { Animation.flag with width := 2, height := 2, frames := frames } ∧
        ∀ g, frames[0]? = some g →
          ∃ shown, g.toRgba = .ok shown ∧ shown.get? 0 0 = some ⟨0, 0, 254, 255⟩ := by
  obtain ⟨hquantize, hclear, hfit⟩ := keeps_unrivalled_colors
  have hwhole : ColorTable.Whole [0, 0, 0, 1, 0, 0] 2 := ⟨by decide, by decide, rfl⟩
  have hflag : Animation.flag.PaintedOn 3 1 := by
    refine ⟨rfl, rfl, fun f hf => ?_⟩
    obtain rfl := List.mem_singleton.1 hf
    exact ⟨⟨2, by decide, by decide, rfl⟩, by simp [FitsByte]⟩
  have hblue : Unrivalled [0, 0, 254, 255, 0, 0] none ⟨0, 0, 254⟩ :=
    hclear _ _ _ (by decide) (.inr (by decide))
  refine ⟨hwhole, ?_, hblue, hflag, ?_⟩
  · obtain ⟨out, hout, hpixels⟩ := hquantize _ _ none (Raster.filled 1 1 ⟨1, 0, 0, 255⟩) hwhole
    obtain ⟨i, hi, hiff⟩ := hpixels 0 0 ⟨1, 0, 0, 255⟩
      (Raster.get?_filled (by decide) (by decide)) (by decide) (by decide)
    refine ⟨out, hout, i, hi, ?_⟩
    intro hkept
    exact absurd (hiff.1 hkept) (by decide)
  · obtain ⟨frames, hframes, hshown⟩ :=
      hfit 3 1 2 Animation.flag (by decide) (by decide) (by decide) (by decide) hflag
    refine ⟨frames, hframes, ?_⟩
    intro g hg
    obtain ⟨shown, hcolors, hpixels⟩ := hshown 0 _ g rfl hg
    refine ⟨shown, hcolors, ?_⟩
    have hpixel := hpixels 0 0 1 0 (by decide +kernel) (by decide)
    have hcolor : ∀ f ∈ Animation.flag.frames, f.colorAt 1 0 = ⟨0, 0, 254, 255⟩ := by
      with_unfolding_all decide
    rw [hcolor _ (List.mem_singleton.2 rfl)] at hpixel
    exact (hpixel (by decide) (by decide)).2 hblue

/-- A colour of the palette is not always kept: another entry may be just as near. -/
theorem close_color_lost : ¬ ∀ (palette : Bytes) (n : Nat) (transparency : Option Int)
    (image : Raster Rgba) (out : Raster UInt8) (x y : Nat) (p : Rgba) (i : UInt8),
    ColorTable.Whole palette n → quantize image palette transparency = .ok out →
      image.get? x y = some p → p.a ≠ 0 → p.rgb ∈ (visible palette transparency).map Prod.fst →
      out.get? x y = some i → (colors palette)[i.toNat]? = some p.rgb := by
  intro h
  have hwhole : ColorTable.Whole [0, 0, 0, 1, 0, 0] 2 := ⟨by decide, by decide, rfl⟩
  have hpixel : (Raster.filled 1 1 (⟨1, 0, 0, 255⟩ : Rgba)).get? 0 0 = some ⟨1, 0, 0, 255⟩ :=
    Raster.get?_filled (by decide) (by decide)
  have hvisible : visible [0, 0, 0, 1, 0, 0] none ≠ [] := by decide
  obtain ⟨out, hout, -, -, hgives⟩ :=
    quantize_gives hwhole hvisible (Raster.filled 1 1 ⟨1, 0, 0, 255⟩)
  obtain ⟨i, hi, hgiven⟩ := hgives 0 0 _ hpixel
  have hkept := h _ _ _ _ _ _ _ _ _ hwhole hout hpixel (by decide) (by decide) hi
  exact absurd ((hgiven.color_iff (by decide)).1 hkept) (by decide)

end Portrait.Gif
