import Portrait.Proofs.Gif.Grammar

/-!
# GIFs that are cut short

The blocks of a file are read from front to back, and what has been read is never touched again. So
a file that is cut off, wherever that is, either is refused or loses its last frames and nothing
else: the frames that are left are those of the whole file. What follows a trailer does not count.

* `Container.IsStartOf` — the same canvas, with the first of the frames.
* `frames_suffix_of_scan` — reading on keeps the frames that have been read.
* `parse_append` — reading a file that goes on is reading on after its blocks.
* `isStartOf_of_parse_append` — a readable file is a start of every readable one that continues it.
* `EndsAtTrailer` — a trailer, and not the end of the data, is where the file ends.

Main statement: `parse_take`.
-/

set_option autoImplicit false

namespace Portrait.Gif

/-- The same canvas, with the first of the frames and no others. -/
structure Container.IsStartOf (c' c : Container) : Prop where
  width : c'.width = c.width
  height : c'.height = c.height
  backgroundIndex : c'.backgroundIndex = c.backgroundIndex
  frames : c'.frames <+: c.frames

/-- The file ends with a trailer, which anything may follow. -/
def EndsAtTrailer (data : Bytes) : Prop :=
  ∃ l : Layout, l.Legal ∧ l.bytes = data ∧ ∃ rest, l.ending = trailer :: rest

/-! ## Reading on -/

section Scan

variable {globalTable bs : Bytes} {st st' : Scan} {label : UInt8} {chunks : List Bytes}

theorem frames_of_extend (h : st.extend label chunks = .ok st') : st'.frames = st.frames := by
  unfold Scan.extend at h
  repeat' split at h
  all_goals cases h
  all_goals rfl

/-- **Reading on keeps the frames that have been read.** The last of them comes first. -/
theorem frames_suffix_of_scan (h : scan globalTable st bs = .ok st') :
    st.frames <:+ st'.frames := by
  -- two cases are endings and two take a block off the front; in all others the reader fails
  fun_induction scan globalTable st bs with
  | case1 => cases h; exact List.suffix_rfl
  | case2 => cases h; exact List.suffix_rfl
  | case3 => cases h
  | case4 => cases h
  | case5 => cases h
  | case6 st label bs chunks rest hread next hextend hne ih =>
    rw [← frames_of_extend hextend]
    exact ih h
  | case7 => cases h
  | case8 st bs frame rest himage hne hne' ih =>
    exact (List.suffix_cons frame st.frames).trans (ih h)
  | case9 => cases h

end Scan

/-! ## Files that go on -/

section Files

variable {l : Layout} {c c' : Container} {p x data : Bytes}

/-- A file that goes on is read on after its blocks. -/
theorem parse_append (h : l.Legal) (x : Bytes) :
    Container.parse (l.bytes ++ x) =
      (scan l.table (Scan.after l.blocks l.container.frames.reverse) (l.ending ++ x)).bind
        l.containerOf := by
  rw [l.bytes_eq, List.append_assoc, List.append_assoc, parse_head _ h.signature h.table,
    scan_start _ h.blocks]
  rfl

/-- What follows a trailer does not count. -/
theorem parse_append_of_trailer {rest : Bytes} (h : l.Legal) (hending : l.ending = trailer :: rest)
    (x : Bytes) : Container.parse (l.bytes ++ x) = .ok l.container := by
  have hlonger : IsEnding (l.ending ++ x) := .inr ⟨rest ++ x, by rw [hending, List.cons_append]⟩
  have hwhole := parse_append h []
  rw [List.append_nil, List.append_nil, scan_ending _ h.ending, parse_bytes h] at hwhole
  rw [parse_append h, scan_ending _ hlonger, hwhole]

theorem isStartOf_of_containerOf {st : Scan} (hsuffix : l.container.frames.reverse <:+ st.frames)
    (h : l.containerOf st = .ok c) : l.container.IsStartOf c := by
  unfold Layout.containerOf at h
  split at h
  · cases h
  cases h
  refine ⟨rfl, rfl, rfl, ?_⟩
  rwa [← List.reverse_suffix, List.reverse_reverse]

/-- **A readable file is a start of every readable file that continues it.** -/
theorem isStartOf_of_parse_append (h' : Container.parse p = .ok c')
    (h : Container.parse (p ++ x) = .ok c) : c'.IsStartOf c := by
  obtain ⟨l, hl, rfl⟩ := exists_layout_of_parse h'
  cases (parse_bytes hl).symm.trans h'
  rw [parse_append hl] at h
  cases hscan : scan l.table (Scan.after l.blocks l.container.frames.reverse) (l.ending ++ x) with
  | error e =>
    rw [hscan] at h
    cases h
  | ok st =>
    rw [hscan] at h
    exact isStartOf_of_containerOf (frames_suffix_of_scan hscan) h

/-- A file that ends with the data is spoilt by a byte that introduces no block. -/
theorem parse_concat_zero (h : l.Legal) (hending : l.ending = []) :
    Container.parse (l.bytes ++ [0]) = .error (.unknownIntroducer 0) := by
  rw [parse_append h, hending]
  unfold scan
  rfl

/-- **Cutting a file short never invents or damages frames**: it is refused, or a start of the whole
is read. What is appended to a file leaves it as it is if and only if it ends with a trailer. -/
theorem parse_take (h : Container.parse data = .ok c) :
    (∀ n, (∃ e, Container.parse (data.take n) = .error e) ∨
        ∃ c', Container.parse (data.take n) = .ok c' ∧ c'.IsStartOf c) ∧
      ((∀ x, Container.parse (data ++ x) = .ok c) ↔ EndsAtTrailer data) := by
  refine ⟨fun n => ?_, fun hsame => ?_, ?_⟩
  · cases hcut : Container.parse (data.take n) with
    | error e => exact .inl ⟨e, rfl⟩
    | ok c' =>
      rw [← List.take_append_drop n data] at h
      exact .inr ⟨c', rfl, isStartOf_of_parse_append hcut h⟩
  · obtain ⟨l, hl, rfl⟩ := exists_layout_of_parse h
    obtain hnil | htrailer := hl.ending
    · cases (parse_concat_zero hl hnil).symm.trans (hsame [0])
    · exact ⟨l, hl, rfl, htrailer⟩
  · rintro ⟨l, hl, rfl, rest, htrailer⟩ x
    rw [parse_append_of_trailer hl htrailer, ← parse_bytes hl, h]

end Files

/-- Two dots, of which the second has a time and its own colors. It ends with a trailer. -/
def pair : Bytes :=
  signature89 ++ [2, 0, 1, 0, 0x80, 1, 0] ++ [0, 0, 0, 255, 255, 255] ++
    [imageIntroducer, 0, 0, 0, 0, 1, 0, 1, 0, 0] ++ [2, 2, 0x44, 0x01, 0] ++
    [extensionIntroducer, graphicControlLabel, 4, 4, 10, 0, 0, 0] ++
    [imageIntroducer, 1, 0, 0, 0, 1, 0, 1, 0, 0x80] ++ [255, 0, 0, 0, 0, 255] ++
    [2, 2, 0x44, 0x01, 0] ++ [trailer]

def pairContainer : Container where
  width := 2
  height := 1
  backgroundIndex := 1
  loopCount := none
  frames := [
    { left := 0, top := 0, width := 1, height := 1, interlaced := false
      palette := [0, 0, 0, 255, 255, 255], minCodeSize := 2, chunks := [[0x44, 0x01]]
      control := {} },
    { left := 1, top := 0, width := 1, height := 1, interlaced := false
      palette := [255, 0, 0, 0, 0, 255], minCodeSize := 2, chunks := [[0x44, 0x01]]
      control := { delay := 10, disposal := 1 } }]

theorem pair_parse_take :
    Container.parse pair = .ok pairContainer ∧
      (∀ n, (∃ e, Container.parse (pair.take n) = .error e) ∨
        ∃ c', Container.parse (pair.take n) = .ok c' ∧ c'.IsStartOf pairContainer) ∧
      ((∀ x, Container.parse (pair ++ x) = .ok pairContainer) ↔ EndsAtTrailer pair) := by
  have h : Container.parse pair = .ok pairContainer := by decide +kernel
  exact ⟨h, parse_take h⟩

/-- Cut between its dots the file has one, and cut within the second it is refused. -/
example :
    (Container.parse (pair.take 34)).map (fun c => c.frames.length) = .ok 1 ∧
      Container.parse (pair.take 50) = .error .truncated := by
  decide +kernel

end Portrait.Gif
