import Mathlib.Data.List.Infix
import Portrait.Proofs.Storage.Tree

/-!
# Trees in which everything can be reached

In the tree of a file system every entry is in a folder. Such a tree is known by what is at each
place, and there is only one reason why a place in a folder cannot be looked at: its name, or the
way to it, is too long.

* `Tree.Sound` — every entry is in a folder. Each change keeps this.
* `Tree.find_cases` — what is found at a place in a folder.
* `Tree.Grown` — a tree with more folders on the way to a place.
* `Tree.grown_of_makeFolders`, `Tree.eq_of_makeFolders` — making folders does nothing else, and if
  it fails for another reason than a long name, it has done nothing.
* `Local.Sound` — the folder of a storage is there.

Main statement: a storage that was opened is sound (`Local.sound_open`).
-/

set_option autoImplicit false

namespace Portrait.Storage

variable {α : Type}

namespace Tree

variable {t t' t'' : Tree α} {p q : Place} {e : Entry α}

/-! ## Entries after a change -/

theorem get?_top (t : Tree α) : t.get? [] = some .folder := if_pos rfl

theorem get?_insert (h : p ≠ []) : (t.insert p e).get? q = if q = p then some e else t.get? q := by
  split
  · rename_i hq
    rw [hq]
    exact get?_insert_self h
  · rename_i hq
    exact get?_insert_of_ne hq

theorem get?_erase_self (h : p ≠ []) : (t.erase p).get? p = none := by
  rw [get?, if_neg h, erase, List.lookup_eq_none_iff]
  intro x hx
  have hne : x.1 ≠ p := by simpa using (List.mem_filter.1 hx).2
  exact bne_iff_ne.2 hne.symm

theorem get?_erase (h : p ≠ []) : (t.erase p).get? q = if q = p then none else t.get? q := by
  split
  · rename_i hq
    rw [hq]
    exact get?_erase_self h
  · rename_i hq
    exact get?_erase_of_ne hq

/-! ## Sound trees -/

/-- Every entry is in a folder. -/
def Sound (t : Tree α) : Prop := ∀ p, t.get? p ≠ none → t.get? p.dropLast = some .folder

namespace Sound

theorem empty : (⟨[]⟩ : Tree α).Sound := by
  intro p hp
  by_cases htop : p = []
  · rw [htop]
    exact get?_top _
  · exact absurd (if_neg htop) hp

theorem congr (h : t.Sound) (heq : ∀ q, t'.get? q = t.get? q) : t'.Sound := by
  intro p hp
  rw [heq] at hp ⊢
  exact h p hp

/-- All places above an entry are folders. -/
theorem folder_above (h : t.Sound) {rest : Place} (hrest : rest ≠ [])
    (hq : t.get? (p ++ rest) ≠ none) : t.get? p = some .folder := by
  induction rest using List.reverseRecOn with
  | nil => exact absurd rfl hrest
  | append_singleton rest name ih =>
    have hfolder := h _ hq
    rw [← List.append_assoc, List.dropLast_concat] at hfolder
    by_cases hnil : rest = []
    · rwa [hnil, List.append_nil] at hfolder
    · exact ih hnil (by rw [hfolder]; simp)

theorem ne_none_of_prefix (h : t.Sound) (hpre : p <+: q) (hq : t.get? q ≠ none) :
    t.get? p ≠ none := by
  obtain ⟨rest, rfl⟩ := hpre
  by_cases hrest : rest = []
  · rwa [hrest, List.append_nil] at hq
  · rw [h.folder_above hrest hq]
    simp

/-- An entry may be made in a folder, but not in place of a folder. -/
theorem insert (h : t.Sound) (hp : p ≠ []) (hparent : t.get? p.dropLast = some .folder)
    (hfree : t.get? p ≠ some .folder) : (t.insert p e).Sound := by
  intro q hq
  rw [get?_insert hp] at hq ⊢
  have hkept : t.get? q.dropLast = some .folder := by
    by_cases hqp : q = p
    · rwa [hqp]
    · rw [if_neg hqp] at hq
      exact h q hq
  have hne : q.dropLast ≠ p := by
    intro heq
    rw [heq] at hkept
    exact hfree hkept
  rw [if_neg hne]
  exact hkept

/-- An entry that is no folder may be taken away. -/
theorem erase (h : t.Sound) (hp : p ≠ []) (hfile : t.get? p ≠ some .folder) :
    (t.erase p).Sound := by
  intro q hq
  rw [get?_erase hp] at hq ⊢
  split at hq
  · exact absurd rfl hq
  have hkept := h q hq
  have hne : q.dropLast ≠ p := by
    intro heq
    rw [heq] at hkept
    exact hfile hkept
  rw [if_neg hne]
  exact hkept

end Sound

/-! ## What is found -/

theorem findFrom_congr (heq : ∀ q, t'.get? q = t.get? q) (done rest : Place) :
    t'.findFrom done rest = t.findFrom done rest := by
  induction rest generalizing done with
  | nil => rw [findFrom, findFrom, heq]
  | cons name rest ih => rw [findFrom, findFrom, heq, ih]

/-- What is found depends on what is at each place alone. -/
theorem find_congr (heq : ∀ q, t'.get? q = t.get? q) (p : Place) : t'.find p = t.find p := by
  rw [find, find, findFrom_congr heq]

theorem get?_of_findFrom {done rest : Place} {found : Option (Entry α)}
    (h : t.findFrom done rest = .ok found) : t.get? (done ++ rest) = found := by
  induction rest generalizing done with
  | nil =>
    rw [findFrom] at h
    rw [List.append_nil]
    exact Except.ok.inj h
  | cons name rest ih =>
    rw [findFrom] at h
    split at h
    · cases h
    · cases h
    split at h
    · cases h
    rw [← ih h, List.append_assoc, List.singleton_append]

/-- What is found at a place is there. -/
theorem get?_of_find {found : Option (Entry α)} (h : t.find p = .ok found) : t.get? p = found := by
  rw [find] at h
  split at h
  · cases h
  · exact get?_of_findFrom h

theorem findFrom_cases {done rest : Place}
    (h : ∀ front name back, rest = front ++ name :: back → t.get? (done ++ front) = some .folder) :
    t.findFrom done rest = .ok (t.get? (done ++ rest)) ∨ t.findFrom done rest = .error .tooLong := by
  induction rest generalizing done with
  | nil =>
    rw [List.append_nil]
    exact .inl rfl
  | cons name rest ih =>
    have hdone : t.get? done = some .folder := by
      have := h [] name rest rfl
      rwa [List.append_nil] at this
    rw [findFrom, hdone]
    dsimp only
    split
    · exact .inr rfl
    · have hnext : ∀ front name' back, rest = front ++ name' :: back →
          t.get? ((done ++ [name]) ++ front) = some .folder := by
        intro front name' back hrest
        have := h (name :: front) name' back (by rw [hrest]; rfl)
        rwa [List.append_assoc, List.singleton_append]
      have := ih hnext
      rwa [List.append_assoc, List.singleton_append] at this

/-- What is in a folder is found, unless the name or the way is too long. -/
theorem find_cases (hs : t.Sound) (hparent : t.get? p.dropLast = some .folder) :
    t.find p = .ok (t.get? p) ∨ t.find p = .error .tooLong := by
  rw [find]
  split
  · exact .inr rfl
  · apply findFrom_cases
    intro front name back hp
    rw [List.nil_append]
    -- The parent is a folder, so that all places above it are.
    rcases List.eq_nil_or_concat back with rfl | ⟨back, last, rfl⟩
    · rwa [hp, List.dropLast_concat] at hparent
    · have hdrop : p.dropLast = front ++ name :: back := by
        rw [hp, List.concat_eq_append, ← List.cons_append, ← List.append_assoc,
          List.dropLast_concat]
      rw [hdrop] at hparent
      exact hs.folder_above (List.cons_ne_nil name back) (by rw [hparent]; simp)

/-- Why a file cannot be given a place in a folder. -/
theorem cause_of_rename {content : α} {e' : TreeError} (hs : t.Sound)
    (hparent : t.get? q.dropLast = some .folder) (hsource : t.find p = .ok (some (.file content)))
    (h : t.rename p q = .error e') : e' = .isFolder ∧ t.get? q = some .folder ∨ e' = .tooLong := by
  rcases find_cases hs hparent with hfind | hfind
  · rw [rename, hsource, hfind] at h
    cases hentry : t.get? q with
    | none =>
      rw [hentry] at h
      cases h
    | some entry =>
      rw [hentry] at h
      cases entry with
      | folder =>
        cases h
        exact .inl ⟨rfl, rfl⟩
      | file old => cases h
  · rw [rename, hsource, hfind] at h
    cases h
    exact .inr rfl

/-! ## Making folders -/

/-- A tree with more folders on the way to a place. -/
def Grown (t t' : Tree α) (p : Place) : Prop :=
  ∀ q, t'.get? q = t.get? q ∨ t.get? q = none ∧ t'.get? q = some .folder ∧ q <+: p

namespace Grown

theorem refl (t : Tree α) (p : Place) : Grown t t p := fun _ => .inl rfl

theorem trans (h : Grown t t' p) (h' : Grown t' t'' p) : Grown t t'' p := by
  intro q
  rcases h' q with heq | ⟨hnone, hfolder, hpre⟩
  · rw [heq]
    exact h q
  · rcases h q with heq | ⟨-, hfolder', -⟩
    · exact .inr ⟨heq ▸ hnone, hfolder, hpre⟩
    · rw [hnone] at hfolder'
      cases hfolder'

/-- What was there before is as it was. -/
theorem eq_of_ne_none (h : Grown t t' p) (hq : t.get? q ≠ none) : t'.get? q = t.get? q := by
  rcases h q with heq | ⟨hnone, -, -⟩
  · exact heq
  · exact absurd hnone hq

/-- What is not on the way is as it was. -/
theorem eq_of_not_prefix (h : Grown t t' p) (hq : ¬ q <+: p) : t'.get? q = t.get? q := by
  rcases h q with heq | ⟨-, -, hpre⟩
  · exact heq
  · exact absurd hpre hq

/-- Nothing is made on a way that was there. -/
theorem eq_of_folder (h : Grown t t' p) (hs : t.Sound) (hp : t.get? p ≠ none) :
    t'.get? q = t.get? q := by
  rcases h q with heq | ⟨hnone, -, hpre⟩
  · exact heq
  · exact absurd hnone (hs.ne_none_of_prefix hpre hp)

end Grown

variable {done rest : Place} {name : String} {failure : Option TreeError}

/-- A new folder on the way. -/
theorem grown_insert (h : t.get? (done ++ [name]) = none) (rest : Place) :
    Grown t (t.insert (done ++ [name]) .folder) (done ++ name :: rest) := by
  intro q
  rw [get?_insert (by simp)]
  split
  · rename_i hq
    rw [hq]
    exact .inr ⟨h, rfl, rest, by simp⟩
  · exact .inl rfl

theorem grown_of_makeFoldersFrom (hnames : ".." ∉ rest)
    (h : t.makeFoldersFrom done rest = (t', failure)) : Grown t t' (done ++ rest) := by
  induction rest generalizing t done with
  | nil =>
    cases h
    exact .refl _ _
  | cons name rest ih =>
    have hrest : ".." ∉ rest := fun hin => hnames (List.mem_cons_of_mem _ hin)
    have hname : name ≠ ".." := fun heq => hnames (heq ▸ List.mem_cons_self)
    have hway : done ++ name :: rest = (done ++ [name]) ++ rest := by simp
    rw [makeFoldersFrom, if_neg hname] at h
    split at h
    · cases h
      exact .refl _ _
    split at h
    · rw [hway]
      exact ih hrest h
    · cases h
      exact .refl _ _
    · rename_i hnone
      have hfirst := grown_insert hnone rest
      have hmore := ih hrest h
      rw [← hway] at hmore
      exact hfirst.trans hmore

/-- Making folders keeps a tree sound. If it succeeds, there is a folder at the end of the way. -/
theorem sound_of_makeFoldersFrom (hs : t.Sound) (hdone : t.get? done = some .folder)
    (h : t.makeFoldersFrom done rest = (t', failure)) :
    t'.Sound ∧ (failure = none → t'.get? (follow done rest) = some .folder) := by
  induction rest generalizing t done with
  | nil =>
    cases h
    exact ⟨hs, fun _ => hdone⟩
  | cons name rest ih =>
    have hfollow (d : Place) (hd : (if name = ".." then done.dropLast else done ++ [name]) = d) :
        follow done (name :: rest) = follow d rest := by rw [← hd]; rfl
    rw [makeFoldersFrom] at h
    split at h
    · rename_i hback
      rw [hfollow done.dropLast (if_pos hback)]
      exact ih hs (hs done (by rw [hdone]; simp)) h
    rename_i hname
    rw [hfollow (done ++ [name]) (if_neg hname)]
    split at h
    · cases h
      exact ⟨hs, by simp⟩
    split at h
    · rename_i hfolder
      exact ih hs hfolder h
    · cases h
      exact ⟨hs, by simp⟩
    · rename_i hnone
      refine ih (hs.insert (by simp) ?_ ?_) (get?_insert_self (by simp)) h
      · rwa [List.dropLast_concat]
      · rw [hnone]
        simp

/-- Where nothing is yet, only the length of a name stands in the way of folders. -/
theorem tooLong_of_makeFoldersFrom {e : TreeError} (hnames : ".." ∉ rest)
    (hempty : ∀ more, more ≠ [] → t.get? (done ++ more) = none)
    (h : t.makeFoldersFrom done rest = (t', some e)) : e = .tooLong := by
  induction rest generalizing t done with
  | nil => cases h
  | cons name rest ih =>
    have hrest : ".." ∉ rest := fun hin => hnames (List.mem_cons_of_mem _ hin)
    have hname : name ≠ ".." := fun heq => hnames (heq ▸ List.mem_cons_self)
    rw [makeFoldersFrom, if_neg hname] at h
    split at h
    · cases h
      rfl
    rw [hempty [name] (by simp)] at h
    refine ih hrest ?_ h
    intro more hmore
    have hbelow : (done ++ [name]) ++ more ≠ done ++ [name] := by simpa using hmore
    rw [get?_insert_of_ne hbelow, List.append_assoc]
    exact hempty _ (by simp)

/-- Making folders that fails for another reason has done nothing. -/
theorem eq_of_makeFoldersFrom {e : TreeError} (hs : t.Sound) (hnames : ".." ∉ rest)
    (h : t.makeFoldersFrom done rest = (t', some e)) (he : e ≠ .tooLong) : t' = t := by
  induction rest generalizing done with
  | nil => cases h
  | cons name rest ih =>
    have hrest : ".." ∉ rest := fun hin => hnames (List.mem_cons_of_mem _ hin)
    have hname : name ≠ ".." := fun heq => hnames (heq ▸ List.mem_cons_self)
    rw [makeFoldersFrom, if_neg hname] at h
    split at h
    · cases h
      rfl
    split at h
    · exact ih hrest h
    · cases h
      rfl
    · rename_i hnone
      refine absurd (tooLong_of_makeFoldersFrom hrest ?_ h) he
      intro more hmore
      have hbelow : (done ++ [name]) ++ more ≠ done ++ [name] := by simpa using hmore
      rw [get?_insert_of_ne hbelow]
      by_contra hsome
      exact hs.ne_none_of_prefix (List.prefix_append _ more) hsome hnone

/-- The folders on the way to what was found are there. -/
theorem makeFoldersFrom_of_findFrom {found : Option (Entry α)} (hnames : ".." ∉ rest)
    (h : t.findFrom done (rest ++ [name]) = .ok found) :
    t.makeFoldersFrom done rest = (t, none) := by
  induction rest generalizing done with
  | nil => rfl
  | cons next rest ih =>
    have hrest : ".." ∉ rest := fun hin => hnames (List.mem_cons_of_mem _ hin)
    have hnext : next ≠ ".." := fun heq => hnames (heq ▸ List.mem_cons_self)
    rw [List.cons_append, findFrom] at h
    split at h
    · cases h
    · cases h
    split at h
    · cases h
    rename_i hshort
    have hfolder : t.get? (done ++ [next]) = some .folder := by
      have hway := h
      obtain ⟨first, others, heq⟩ : ∃ first others, rest ++ [name] = first :: others :=
        List.exists_cons_of_ne_nil (by simp)
      rw [heq, findFrom] at hway
      split at hway
      · cases hway
      · cases hway
      · assumption
    rw [makeFoldersFrom, if_neg hnext, if_neg hshort, hfolder]
    exact ih hrest h

section MakeFolders

variable {e : TreeError}

theorem grown_of_makeFolders (hnames : ".." ∉ p) (h : t.makeFolders p = (t', failure)) :
    Grown t t' p := by
  rw [makeFolders] at h
  split at h
  · cases h
    exact .refl _ _
  · exact grown_of_makeFoldersFrom hnames h

theorem sound_of_makeFolders (hs : t.Sound) (h : t.makeFolders p = (t', failure)) :
    t'.Sound ∧ (failure = none → t'.get? (follow [] p) = some .folder) := by
  rw [makeFolders] at h
  split at h
  · cases h
    exact ⟨hs, by simp⟩
  · exact sound_of_makeFoldersFrom hs (get?_top t) h

theorem eq_of_makeFolders (hs : t.Sound) (hnames : ".." ∉ p)
    (h : t.makeFolders p = (t', some e)) (he : e ≠ .tooLong) : t' = t := by
  rw [makeFolders] at h
  split at h
  · cases h
    rfl
  · exact eq_of_makeFoldersFrom hs hnames h he

/-- The text of a place is longer than that of the place above it. -/
theorem placeSize_concat (p : Place) (name : String) :
    placeSize (p ++ [name]) = placeSize p + name.utf8ByteSize + 1 := by
  rw [placeSize, List.foldl_append]
  rfl

theorem makeFolders_of_find {found : Option (Entry α)} (hnames : ".." ∉ p)
    (h : t.find (p ++ [name]) = .ok found) : t.makeFolders p = (t, none) := by
  rw [find] at h
  split at h
  · cases h
  rename_i hshort
  have hp : ¬ isLongPlace p = true := by
    simp only [isLongPlace, placeSize_concat, decide_eq_true_eq] at hshort ⊢
    omega
  rw [makeFolders, if_neg hp]
  exact makeFoldersFrom_of_findFrom hnames h

end MakeFolders

end Tree

/-! ## Places -/

theorem notMem_follow {start : Place} (h : ".." ∉ start) (names : List String) :
    ".." ∉ follow start names := by
  induction names generalizing start with
  | nil => exact h
  | cons name names ih =>
    apply ih
    dsimp only
    split
    · exact fun hin => h (List.dropLast_subset _ hin)
    · rename_i hname
      simpa using ⟨h, Ne.symm hname⟩

/-- Names of which none leads back are followed one after the other. -/
theorem follow_eq_append {start names : Place} (h : ".." ∉ names) :
    follow start names = start ++ names := by
  induction names generalizing start with
  | nil => exact (List.append_nil start).symm
  | cons name names ih =>
    have hname : name ≠ ".." := fun heq => h (heq ▸ List.mem_cons_self)
    have hnames : ".." ∉ names := fun hin => h (List.mem_cons_of_mem _ hin)
    have hstep : follow start (name :: names) = follow (start ++ [name]) names := by
      rw [follow, List.foldl_cons, if_neg hname]
      rfl
    rw [hstep, ih hnames, List.append_assoc, List.singleton_append]

theorem follow_append (start names more : Place) :
    follow start (names ++ more) = follow (follow start names) more := List.foldl_append

namespace Local

/-- The folder of a storage is there, in a sound tree. -/
structure Sound (s : Local α) : Prop where
  tree : s.tree.Sound
  folder : s.tree.get? s.folder = some .folder
  names : ".." ∉ s.folder

/-- **A storage that was opened is sound**, if it was opened below a place in a sound tree. -/
theorem sound_open {t : Tree α} {root : Place} {path address : String} {s : Local α}
    (ht : t.Sound) (hroot : ".." ∉ root) (h : Local.open t root path address = (s, none)) :
    s.Sound := by
  have hstart : ".." ∉ (if path.startsWith "/" then [] else root) := by
    split
    · simp
    · exact hroot
  rcases hmade : t.makeFolders ((if path.startsWith "/" then [] else root) ++ names path) with
    ⟨made, failure⟩
  simp only [Local.open, hmade] at h
  obtain ⟨rfl, rfl⟩ := Prod.mk.inj h
  obtain ⟨hsound, hfolder⟩ := Tree.sound_of_makeFolders ht hmade
  have hplace : follow [] ((if path.startsWith "/" then [] else root) ++ names path) =
      resolve root path := by
    rw [follow_append, follow_eq_append hstart, List.nil_append, resolve]
  exact
    { tree := hsound
      folder := hplace ▸ hfolder rfl
      names := notMem_follow hstart _ }

end Local

end Portrait.Storage
