import Portrait.Proofs.Storage.Calls

/-!
# What a call that succeeded has done

A file is written under another name and then renamed, and paths may be spelled in many ways. All
the same a call that succeeded has changed one file, and which one depends on the place that its
path leads to alone.

* `Tree.file?` — the content of the file at a place.
* `Call.path`, `Call.leaves`, `Call.retarget` — what a call is about, what it leaves there, and the
  same call on another path.
* `Local.Effect` — the whole effect of a call: one file, and folders on the way to it.
* `Performed.effect` — a call that succeeded has had that effect.

Main statement: `Local.perform_isolated`.
-/

set_option autoImplicit false

namespace Portrait.Storage

variable {α : Type}

/-! ## Files -/

namespace Tree

variable {t t' : Tree α} {p q : Place} {content : α}

/-- The content of the file at a place, if there is one. -/
def file? (t : Tree α) (p : Place) : Option α :=
  match t.get? p with
  | some (.file content) => some content
  | _ => none

theorem file?_of_file (h : t.get? p = some (.file content)) : t.file? p = some content := by
  simp [file?, h]

theorem file?_of_folder (h : t.get? p = some .folder) : t.file? p = none := by
  simp [file?, h]

theorem file?_of_none (h : t.get? p = none) : t.file? p = none := by
  simp [file?, h]

theorem file?_congr (h : t'.get? q = t.get? q) : t'.file? q = t.file? q := by
  simp [file?, h]

/-- New folders are no files. -/
theorem Grown.file?_eq (h : Grown t t' p) : t'.file? q = t.file? q := by
  rcases h q with heq | ⟨hnone, hfolder, -⟩
  · exact file?_congr heq
  · rw [file?_of_none hnone, file?_of_folder hfolder]

/-- All folders above a folder are there. -/
theorem Sound.folder_of_prefix (hs : t.Sound) (hp : t.get? p = some .folder) (hpre : q <+: p) :
    t.get? q = some .folder := by
  obtain ⟨rest, rfl⟩ := hpre
  by_cases hrest : rest = []
  · rwa [hrest, List.append_nil] at hp
  · exact hs.folder_above hrest (by simp [hp])

end Tree

/-! ## Calls -/

namespace Call

/-- The path that a call names. -/
def path : Call α → String
  | save path _ => path
  | remove path => path

/-- What is in the file at its place after a call that succeeded; nothing, if it was removed. -/
def leaves : Call α → Option α
  | save _ content => some content
  | remove _ => none

/-- The same call on another path. -/
def retarget (c : Call α) (path : String) : Call α :=
  match c with
  | save _ content => save path content
  | remove _ => remove path

end Call

namespace Local

variable {s s' s'' : Local α} {c c' : Call α} {p q : Place} {path path' : String}
  {failure : Option StorageError}

/-! ## Effects -/

/-- The whole effect of a call at a place. -/
structure Effect (s s' : Local α) (c : Call α) (p : Place) : Prop where
  folder : s'.folder = s.folder
  address : s'.address = s.address
  /-- A call that removes has found a file. -/
  found : c.leaves = none → s.tree.file? p ≠ none
  /-- One file is what the call leaves, and every other one is as it was. -/
  files : ∀ q, s'.tree.file? q = if q = p then c.leaves else s.tree.file? q
  /-- Folders stay. New ones are on the way to a file that was saved, in the folder of the storage. -/
  folders : ∀ q, s'.tree.get? q = some .folder ↔
    s.tree.get? q = some .folder ∨ c.leaves ≠ none ∧ s.folder <+: q ∧ q <+: p.dropLast

/-- What is on the way to a place is not the place. -/
theorem ne_of_prefix_dropLast (hp : p ≠ []) (hpre : q <+: p.dropLast) : q ≠ p := by
  rintro rfl
  have hlength := hpre.length_le
  have hpos := List.length_pos_iff.2 hp
  rw [List.length_dropLast] at hlength
  omega

/-- A file that was written completely is all that was written. -/
theorem effect_of_written {t : Tree α} {content : α} (hs : s.Sound) (hplace : s.place path = .ok p)
    (hp : p ≠ []) (h : Written s.tree p content t none) :
    Effect s { s with tree := t } (.save path content) p := by
  obtain ⟨-, hinside⟩ := place_eq_ok hplace
  cases h with
  | @complete grown _ hgrown hsound hparent hfree _ h =>
    refine ⟨rfl, rfl, by simp [Call.leaves], fun q => ?_, fun q => ?_⟩
    · by_cases hq : q = p
      · rw [if_pos hq]
        exact Tree.file?_of_file ((h q).trans (if_pos hq))
      · rw [if_neg hq, Tree.file?_congr ((h q).trans (if_neg hq)), hgrown.file?_eq]
    · dsimp only
      constructor
      · intro hfolder
        by_cases hq : q = p
        · rw [h, if_pos hq] at hfolder
          cases hfolder
        rw [h, if_neg hq] at hfolder
        rcases hgrown q with heq | ⟨hnone, -, hpre⟩
        · exact .inl (heq ▸ hfolder)
        · have hway := hpre.trans (List.dropLast_prefix p)
          exact .inr ⟨by simp [Call.leaves], hs.inside_of_new hinside hway hnone, hpre⟩
      · rintro (hfolder | ⟨-, -, hpre⟩)
        · have hkept := hgrown.eq_of_ne_none (q := q) (by simp [hfolder])
          have hq : q ≠ p := by
            rintro rfl
            exact hfree (hkept.trans hfolder)
          rw [h, if_neg hq, hkept, hfolder]
        · rw [h, if_neg (ne_of_prefix_dropLast hp hpre)]
          exact hsound.folder_of_prefix hparent hpre

/-- A file that was removed is all that was removed. -/
theorem effect_of_erase {old : α} (hfile : s.tree.get? p = some (.file old)) :
    Effect s { s with tree := s.tree.erase p } (.remove path) p := by
  have hp : p ≠ [] := by
    rintro rfl
    rw [Tree.get?_top] at hfile
    cases hfile
  refine ⟨rfl, rfl, ?_, fun q => ?_, fun q => ?_⟩
  · intro _
    simp [Tree.file?_of_file hfile]
  · by_cases hq : q = p
    · rw [if_pos hq, hq]
      exact Tree.file?_of_none (Tree.get?_erase_self hp)
    · rw [if_neg hq]
      exact Tree.file?_congr (Tree.get?_erase_of_ne hq)
  · simp only [Tree.get?_erase hp, Call.leaves, ne_eq, not_true, false_and, or_false]
    by_cases hq : q = p
    · simp [hq, hfile]
    · simp [hq]

/-- **A call that succeeded has had its effect and no other.** -/
theorem Performed.effect (h : Performed s c s' none) (hs : s.Sound) :
    ∃ p, s.place c.path = .ok p ∧ Effect s s' c p := by
  generalize hfailure : (none : Option StorageError) = failure at h
  cases h with
  | refused => cases hfailure
  | @written _ _ p _ failed hplace hp h =>
    cases failed with
    | some e => cases hfailure
    | none => exact ⟨p, hplace, effect_of_written hs hplace hp h⟩
  | @removed _ p _ hplace h => exact ⟨p, hplace, effect_of_erase (Tree.get?_of_find h)⟩

/-! ## Paths -/

/-- A path has a place if no character of it is forbidden and it does not lead out of the folder. -/
theorem place_of_resolve (hcode : '\x00' ∉ path.toList) (hinside : s.folder <+: resolve s.folder path) :
    s.place path = .ok (resolve s.folder path) := by
  have hwithin := List.isPrefixOf_iff_prefix.2 hinside
  rw [place, if_neg (by simpa using hcode)]
  simp only [hwithin, if_true]

/-- A call depends on the place that its path leads to, and not on the spelling of the path. -/
theorem perform_retarget (hplace : s.place c.path = .ok p) (hplace' : s.place path' = .ok p) :
    s.perform (c.retarget path') = s.perform c := by
  cases c with
  | save path content =>
    have hpath : s.place path = .ok p := hplace
    simp only [Call.retarget, perform, save, hpath, hplace']
  | remove path =>
    have hpath : s.place path = .ok p := hplace
    simp only [Call.retarget, perform, remove, hpath, hplace']

/-- **A call that succeeded has changed one file, the one that its path leads to.** Every other file
is as it was, and the only new folders are on the way to it. Another path that leads there does the
same. A call that leads elsewhere and succeeds afterwards has found at its place what was there before
the first one, and leaves alone what the first one has left. -/
theorem perform_isolated (hs : s.Sound) (h : s.perform c = (s', none)) :
    (∃ p, s.place c.path = .ok p ∧ p = resolve s.folder c.path ∧ Effect s s' c p) ∧
      (∀ path', '\x00' ∉ path'.toList → resolve s.folder path' = resolve s.folder c.path →
        s.perform (c.retarget path') = (s', none)) ∧
      ∀ c' s'', s'.perform c' = (s'', none) →
        resolve s.folder c'.path ≠ resolve s.folder c.path →
          s'.tree.file? (resolve s.folder c'.path) = s.tree.file? (resolve s.folder c'.path) ∧
            s''.tree.file? (resolve s.folder c'.path) = c'.leaves ∧
            s''.tree.file? (resolve s.folder c.path) = c.leaves := by
  have hperformed := performed hs h
  obtain ⟨p, hplace, heffect⟩ := hperformed.effect hs
  obtain ⟨rfl, hinside⟩ := place_eq_ok hplace
  refine ⟨⟨_, hplace, rfl, heffect⟩, ?_, ?_⟩
  · intro path' hcode hresolve
    have hplace' : s.place path' = .ok (resolve s.folder c.path) := by
      rw [← hresolve]
      exact place_of_resolve hcode (hresolve ▸ hinside)
    rw [perform_retarget hplace hplace', h]
  · intro c' s'' h' hne
    have hs' := hperformed.sound hs
    obtain ⟨p', hplace', heffect'⟩ := (performed hs' h').effect hs'
    obtain ⟨rfl, -⟩ := place_eq_ok hplace'
    rw [heffect.folder] at heffect'
    refine ⟨(heffect.files _).trans (if_neg hne), (heffect'.files _).trans (if_pos rfl), ?_⟩
    rw [heffect'.files, if_neg hne.symm, heffect.files, if_pos rfl]

/-- A path with a detour, and the same file without it. -/
theorem detour_isolated : crowded.Sound ∧
    ∃ s', crowded.perform (.save "new/../d" 1) = (s', none) ∧
      (∃ p, crowded.place "new/../d" = .ok p ∧ p = ["files", "d"] ∧
        Effect crowded s' (.save "new/../d" 1) p) ∧
      crowded.perform (.save "d" 1) = (s', none) := by
  have hnames : names "new/../d" = ["new", "..", "d"] := by
    rw [names_eq]
    decide
  have hdirect : names "d" = ["d"] := by
    rw [names_eq]
    decide
  have hrelative : ("new/../d".startsWith "/") = false := by decide +kernel
  have hresolve : resolve crowded.folder "new/../d" = ["files", "d"] := by
    rw [resolve, hrelative, hnames]
    decide
  have hresolve' : resolve crowded.folder "d" = ["files", "d"] := by
    have : ("d".startsWith "/") = false := by decide +kernel
    rw [resolve, this, hdirect]
    decide
  have hplace : crowded.place "new/../d" = .ok ["files", "d"] := by
    rw [← hresolve]
    exact place_of_resolve (by decide) (by rw [hresolve]; decide)
  have hsaved : crowded.perform (.save "new/../d" 1) =
      ({ crowded with tree := crowded.tree.insert ["files", "d"] (.file 1) }, none) := by
    rw [perform, save_eq_write hplace (List.cons_ne_nil _ _)]
    decide
  obtain ⟨heffect, hspelled, -⟩ := perform_isolated sound_crowded hsaved
  rw [Call.path, hresolve] at heffect
  exact ⟨sound_crowded, _, hsaved, heffect,
    hspelled "d" (by decide) (by rw [hresolve', Call.path, hresolve])⟩

end Local

end Portrait.Storage
