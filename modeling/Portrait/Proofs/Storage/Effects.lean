import Portrait.Proofs.Storage.Sound

/-!
# What writing does to a tree

Writing a file takes four steps, each of which may fail: the folders on the way, the file under its
other name, its own name, and tidying up. What they come to is one of four things.

* `Written` — what may come of writing a file: all of it, folders only, the loss of a file that bore
  the other name, or nothing.
* `Written.cases_of_ne` — where the tree is another one afterwards.

Main statement: nothing else comes of writing a file (`written_of_write`).
-/

set_option autoImplicit false

namespace Portrait.Storage

variable {α : Type}

/-! ## The other name of a file -/

theorem dropLast_temporary (p : Place) : (temporary p).dropLast = p.dropLast :=
  List.dropLast_concat

theorem temporary_ne_nil (p : Place) : temporary p ≠ [] := by simp [temporary]

theorem temporary_ne (p : Place) : temporary p ≠ p := by
  intro heq
  have hpre : temporary p <+: p := by rw [heq]
  exact temporary_not_above p hpre

/-! ## Writing -/

/-- What may come of writing a file at a place. -/
inductive Written (t : Tree α) (p : Place) (content : α) : Tree α → Option TreeError → Prop
  /-- The file is there, in the folders on the way to it. -/
  | complete {grown t' : Tree α} (hgrown : Tree.Grown t grown p.dropLast) (hsound : grown.Sound)
      (hparent : grown.get? p.dropLast = some .folder) (hfree : grown.get? p ≠ some .folder)
      (hother : grown.get? (temporary p) = none)
      (h : ∀ q, t'.get? q = if q = p then some (.file content) else grown.get? q) :
      Written t p content t' none
  /-- A name is too long, or the way is. Folders may have been made before that was noticed. -/
  | tooLong {t' : Tree α} (hgrown : Tree.Grown t t' p.dropLast) (hsound : t'.Sound) :
      Written t p content t' (some .tooLong)
  /-- There was a file under the other name. It is taken for what is left of this one. -/
  | spoiled {t' : Tree α} {old : α} (hold : t.find (temporary p) = .ok (some (.file old)))
      (h : ∀ q, t'.get? q = if q = temporary p then none else t.get? q) :
      Written t p content t' (some .exists)
  /-- Nothing is done. -/
  | unchanged {t' : Tree α} {e : TreeError} (he : e ≠ .tooLong) (h : ∀ q, t'.get? q = t.get? q) :
      Written t p content t' (some e)

section Writing

variable {t t' grown written : Tree α} {p q : Place} {content : α} {failure : Option TreeError}
  {e : TreeError}

/-- The other name is not on the way to a place, so that it is as free as before when the folders
have been made. -/
theorem get?_temporary (h : Tree.Grown t grown p.dropLast) :
    grown.get? (temporary p) = t.get? (temporary p) := by
  apply h.eq_of_not_prefix
  intro hpre
  have hlength := hpre.length_le
  rw [temporary, List.length_append, List.length_singleton] at hlength
  omega

/-- An entry under the other name is in the folder of the file, so that no folders had to be made. -/
theorem eq_of_temporary (hs : t.Sound) (h : Tree.Grown t grown p.dropLast)
    (hother : grown.get? (temporary p) ≠ none) : grown.get? q = t.get? q := by
  rw [get?_temporary h] at hother
  have hparent := hs _ hother
  rw [dropLast_temporary] at hparent
  exact h.eq_of_folder hs (by rw [hparent]; simp)

/-- A file that could not be made under the other name leaves the tree as it was, unless there was a
file under that name. -/
theorem written_of_create_error (hs : t.Sound) (hgrown : Tree.Grown t grown p.dropLast)
    (hsound : grown.Sound) (hparent : grown.get? p.dropLast = some .folder)
    (hcreate : grown.create (temporary p) content = .error e)
    (h : Local.cleanUp grown (temporary p) e = (t', failure)) : Written t p content t' failure := by
  have hfind := Tree.find_cases (p := temporary p) hsound (by rwa [dropLast_temporary])
  rcases hfind with hfind | hfind
  · cases hentry : grown.get? (temporary p) with
    | none =>
      rw [hentry] at hfind
      rw [Tree.create, hfind] at hcreate
      cases hcreate
    | some entry =>
      have heq (q : Place) : grown.get? q = t.get? q :=
        eq_of_temporary hs hgrown (by rw [hentry]; simp)
      rw [hentry] at hfind
      rw [Tree.create, hfind] at hcreate
      cases hcreate
      rw [Local.cleanUp, Tree.unlink, hfind] at h
      cases entry with
      | folder =>
        cases h
        exact .unchanged (by simp) heq
      | file old =>
        cases h
        have hold : t.find (temporary p) = .ok (some (.file old)) := by
          rw [← hfind]
          exact (Tree.find_congr heq _).symm
        refine .spoiled hold fun q => ?_
        rw [Tree.get?_erase (temporary_ne_nil p), heq]
  · rw [Tree.create, hfind] at hcreate
    cases hcreate
    rw [Local.cleanUp, Tree.unlink, hfind] at h
    cases h
    exact .tooLong hgrown hsound

/-- A file that is made under the other name and removed again leaves nothing. -/
theorem get?_insert_erase (hother : grown.get? (temporary p) = none) :
    ((grown.insert (temporary p) (.file content)).erase (temporary p)).get? q = grown.get? q := by
  rw [Tree.get?_erase (temporary_ne_nil p), Tree.get?_insert (temporary_ne_nil p)]
  split
  · rename_i hq
    rw [hq, hother]
  · rfl

/-- A file that could not be given its own name is removed again. -/
theorem written_of_rename_error (hs : t.Sound) (hgrown : Tree.Grown t grown p.dropLast)
    (hsound : grown.Sound) (hp : p ≠ []) (hparent : grown.get? p.dropLast = some .folder)
    (hcreate : grown.create (temporary p) content = .ok written)
    (hrename : written.rename (temporary p) p = .error e)
    (h : Local.cleanUp written (temporary p) e = (t', failure)) :
    Written t p content t' failure := by
  obtain ⟨hfree, rfl⟩ := Tree.eq_of_create hcreate
  have hother : grown.get? (temporary p) = none := Tree.get?_of_find hfree
  have hmade := Tree.find_insert_self (e := .file content) (temporary_ne_nil p) hfree
  have hsound' : (grown.insert (temporary p) (.file content)).Sound :=
    hsound.insert (temporary_ne_nil p) (by rwa [dropLast_temporary]) (by rw [hother]; simp)
  have hparent' : (grown.insert (temporary p) (.file content)).get? p.dropLast = some .folder := by
    rw [Tree.get?_insert (temporary_ne_nil p), if_neg, hparent]
    intro heq
    rw [heq, hother] at hparent
    cases hparent
  rw [Local.cleanUp, Tree.unlink, hmade] at h
  cases h
  rcases Tree.cause_of_rename hsound' hparent' hmade hrename with ⟨rfl, hfolder⟩ | rfl
  · rw [Tree.get?_insert_of_ne (temporary_ne p).symm] at hfolder
    have hkept : grown.get? p = t.get? p := by
      apply hgrown.eq_of_not_prefix
      intro hpre
      have hlength := hpre.length_le
      rw [List.length_dropLast] at hlength
      have := List.length_pos_iff.2 hp
      omega
    -- The place is that of a folder, so that all folders on the way were there.
    have habove : t.get? p.dropLast = some .folder := hs p (by rw [← hkept, hfolder]; simp)
    refine .unchanged (by simp) fun q => ?_
    rw [get?_insert_erase hother]
    exact hgrown.eq_of_folder hs (by rw [habove]; simp)
  · refine .tooLong (fun q => ?_) (hsound.congr fun q => get?_insert_erase hother)
    rw [get?_insert_erase hother]
    exact hgrown q

/-- A file that got its own name is there, and nothing is left under the other one. -/
theorem written_of_rename (hgrown : Tree.Grown t grown p.dropLast) (hsound : grown.Sound)
    (hp : p ≠ []) (hparent : grown.get? p.dropLast = some .folder)
    (hcreate : grown.create (temporary p) content = .ok written)
    (hrename : written.rename (temporary p) p = .ok t') : Written t p content t' none := by
  obtain ⟨hfree, rfl⟩ := Tree.eq_of_create hcreate
  have hother : grown.get? (temporary p) = none := Tree.get?_of_find hfree
  obtain ⟨content', found, hsource, htarget, hfolder, rfl⟩ := Tree.eq_of_rename hrename
  obtain rfl : content = content' := by
    have hmade := Tree.find_insert_self (e := .file content) (temporary_ne_nil p) hfree
    rw [hmade] at hsource
    cases hsource
    rfl
  refine .complete hgrown hsound hparent ?_ hother ?_
  · rw [← Tree.get?_insert_of_ne (temporary_ne p).symm, Tree.get?_of_find htarget]
    exact hfolder
  · intro q
    rw [Tree.get?_insert hp, Tree.get?_erase (temporary_ne_nil p),
      Tree.get?_insert (temporary_ne_nil p)]
    split
    · rfl
    split
    · rename_i hq
      rw [hq, hother]
    · rfl

/-- **What comes of writing a file** in a sound tree. -/
theorem written_of_write (hs : t.Sound) (hp : p ≠ []) (hnames : ".." ∉ p)
    (h : Local.write t p content = (t', failure)) : Written t p content t' failure := by
  have hnames' : ".." ∉ p.dropLast := fun hin => hnames (List.dropLast_subset _ hin)
  rw [Local.write] at h
  rcases hmade : t.makeFolders p.dropLast with ⟨grown, failed⟩
  have hgrown := Tree.grown_of_makeFolders hnames' hmade
  obtain ⟨hsound, hfolder⟩ := Tree.sound_of_makeFolders hs hmade
  rw [hmade] at h
  cases failed with
  | some e =>
    cases h
    by_cases he : e = .tooLong
    · rw [he]
      exact .tooLong hgrown hsound
    · obtain rfl := Tree.eq_of_makeFolders hs hnames' hmade he
      exact .unchanged he fun q => rfl
  | none =>
    have hparent : grown.get? p.dropLast = some .folder := by
      have := hfolder rfl
      rwa [follow_eq_append hnames', List.nil_append] at this
    dsimp only at h
    cases hcreate : grown.create (temporary p) content with
    | error e =>
      rw [hcreate] at h
      exact written_of_create_error hs hgrown hsound hparent hcreate h
    | ok written =>
      rw [hcreate] at h
      dsimp only at h
      cases hrename : written.rename (temporary p) p with
      | error e =>
        rw [hrename] at h
        exact written_of_rename_error hs hgrown hsound hp hparent hcreate hrename h
      | ok renamed =>
        rw [hrename] at h
        cases h
        exact written_of_rename hgrown hsound hp hparent hcreate hrename

theorem Written.sound (h : Written t p content t' failure) (hs : t.Sound) (hp : p ≠ []) :
    t'.Sound := by
  cases h with
  | @complete grown _ _ hsound hparent hfree _ h =>
    refine (hsound.insert (e := .file content) hp hparent hfree).congr fun q => ?_
    rw [h, Tree.get?_insert hp]
  | tooLong _ hsound => exact hsound
  | @spoiled _ old hold h =>
    have hfile := Tree.get?_of_find hold
    refine (hs.erase (temporary_ne_nil p) (by rw [hfile]; simp)).congr fun q => ?_
    rw [h, Tree.get?_erase (temporary_ne_nil p)]
  | unchanged _ h => exact hs.congr h

/-- A folder stays a folder. -/
theorem Written.get?_of_folder (h : Written t p content t' failure)
    (hq : t.get? q = some .folder) : t'.get? q = some .folder := by
  have hsome : t.get? q ≠ none := by rw [hq]; simp
  cases h with
  | complete hgrown _ _ hfree _ h =>
    have hkept := hgrown.eq_of_ne_none hsome
    have hne : q ≠ p := by
      rintro rfl
      exact hfree (hkept.trans hq)
    rw [h, if_neg hne, hkept, hq]
  | tooLong hgrown _ => exact (hgrown.eq_of_ne_none hsome).trans hq
  | spoiled hold h =>
    have hne : q ≠ temporary p := by
      rintro rfl
      rw [Tree.get?_of_find hold] at hq
      cases hq
    rw [h, if_neg hne, hq]
  | unchanged _ h => exact (h q).trans hq

/-- Only three things change: the file, folders on the way to it, and a file under its other name. -/
theorem Written.cases_of_ne (h : Written t p content t' failure) (hq : t'.get? q ≠ t.get? q) :
    q = p ∨ (t.get? q = none ∧ q <+: p.dropLast) ∨
      (q = temporary p ∧ ∃ old, t.find q = .ok (some (.file old))) := by
  have hway {grown : Tree α} (hgrown : Tree.Grown t grown p.dropLast)
      (hne : grown.get? q ≠ t.get? q) : t.get? q = none ∧ q <+: p.dropLast := by
    rcases hgrown q with heq | ⟨hnone, -, hpre⟩
    · exact absurd heq hne
    · exact ⟨hnone, hpre⟩
  cases h with
  | complete hgrown _ _ _ _ h =>
    by_cases hqp : q = p
    · exact .inl hqp
    · rw [h, if_neg hqp] at hq
      exact .inr (.inl (hway hgrown hq))
  | tooLong hgrown _ => exact .inr (.inl (hway hgrown hq))
  | @spoiled _ old hold h =>
    by_cases hqp : q = temporary p
    · rw [hqp]
      exact .inr (.inr ⟨rfl, old, hold⟩)
    · rw [h, if_neg hqp] at hq
      exact absurd rfl hq
  | unchanged _ h => exact absurd (h q) hq

/-- A file under the other name is removed, and the file is not written. -/
theorem write_of_temporary {old : α} (hnames : ".." ∉ p)
    (h : t.find (temporary p) = .ok (some (.file old))) :
    Local.write t p content = (t.erase (temporary p), some .exists) := by
  have hnames' : ".." ∉ p.dropLast := fun hin => hnames (List.dropLast_subset _ hin)
  have hcreate : t.create (temporary p) content = .error .exists := by rw [Tree.create, h]
  have hunlink : t.unlink (temporary p) = .ok (t.erase (temporary p)) := by rw [Tree.unlink, h]
  rw [Local.write, Tree.makeFolders_of_find hnames' h]
  dsimp only
  rw [hcreate]
  dsimp only
  rw [Local.cleanUp, hunlink]

end Writing

end Portrait.Storage
