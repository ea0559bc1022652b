import Portrait.Storage.Local

/-!
# What is found in trees of files

A tree is looked at through `Tree.find`, which passes through all folders on the way. Whether a way is
open depends on the places on it alone, so that entries elsewhere may come and go.

* `Tree.find_insert_self`, `Tree.find_erase` — what is found after a change.
* `Tree.eq_of_create`, `Tree.eq_of_rename` — what a change that succeeds has found and done.
* `Local.Holds` — a folder holds a file with some content at a path.

Main statement: a file that was saved is there (`Local.holds_of_save`).
-/

set_option autoImplicit false

namespace Portrait.Storage

variable {α : Type}

namespace Tree

variable {t t' : Tree α} {p q : Place} {e : Entry α} {content : α}

/-! ## Entries -/

theorem lookup_filter_ne {entries : List (Place × Entry α)} (h : q ≠ p) :
    (entries.filter fun x => x.1 ≠ p).lookup q = entries.lookup q := by
  induction entries with
  | nil => rfl
  | cons x rest ih =>
    obtain ⟨r, a⟩ := x
    by_cases hr : r = p
    · have hq : (q == r) = false := beq_false_of_ne (hr ▸ h)
      rw [List.filter_cons_of_neg (by simpa using hr), ih, List.lookup_cons, hq]
    · rw [List.filter_cons_of_pos (by simpa using hr), List.lookup_cons, List.lookup_cons, ih]

theorem get?_erase_of_ne (h : q ≠ p) : (t.erase p).get? q = t.get? q := by
  simp only [get?, erase, lookup_filter_ne h]

theorem get?_insert_self (h : p ≠ []) : (t.insert p e).get? p = some e := by
  rw [get?, if_neg h, insert]
  exact List.lookup_cons_self

theorem get?_insert_of_ne (h : q ≠ p) : (t.insert p e).get? q = t.get? q := by
  have hq : (q == p) = false := beq_false_of_ne h
  simp only [get?, insert, List.lookup_cons, hq, lookup_filter_ne h]

/-! ## Ways -/

/-- The way to a place is open after an entry was made there if it was open before. -/
theorem findFrom_insert {done rest : Place} {found : Option (Entry α)} (hrest : rest ≠ [])
    (h : t.findFrom done rest = .ok found) :
    (t.insert (done ++ rest) e).findFrom done rest = .ok (some e) := by
  induction rest generalizing done with
  | nil => exact absurd rfl hrest
  | cons name rest ih =>
    have hdone : done ≠ done ++ name :: rest := by simp
    have hnext : done ++ name :: rest = (done ++ [name]) ++ rest := by simp
    rw [findFrom] at h ⊢
    rw [get?_insert_of_ne hdone]
    cases hget : t.get? done with
    | none =>
      rw [hget] at h
      cases h
    | some entry =>
      rw [hget] at h
      cases entry with
      | file a => cases h
      | folder =>
        dsimp only at h ⊢
        split at h
        · cases h
        rename_i hshort
        rw [if_neg hshort, hnext]
        cases rest with
        | nil =>
          rw [List.append_nil, findFrom, get?_insert_self (by simp)]
        | cons name' rest => exact ih (by simp) h

/-- An entry that is not on the way to a place makes no difference. -/
theorem findFrom_erase {done rest : Place} (h : ¬ q <+: done ++ rest) :
    (t.erase q).findFrom done rest = t.findFrom done rest := by
  have hdone : done ≠ q := by
    rintro rfl
    exact h (List.prefix_append done rest)
  induction rest generalizing done with
  | nil => rw [findFrom, findFrom, get?_erase_of_ne hdone]
  | cons name rest ih =>
    have hnext : ¬ q <+: (done ++ [name]) ++ rest := by simpa using h
    have hstep : done ++ [name] ≠ q := by
      rintro rfl
      exact hnext (List.prefix_append _ rest)
    rw [findFrom, findFrom, get?_erase_of_ne hdone, ih hnext hstep]

theorem find_insert_self {found : Option (Entry α)} (hp : p ≠ []) (h : t.find p = .ok found) :
    (t.insert p e).find p = .ok (some e) := by
  rw [find] at h ⊢
  split at h
  · cases h
  · rename_i hshort
    rw [if_neg hshort]
    exact @findFrom_insert _ t e [] p found hp h

theorem find_erase (h : ¬ q <+: p) : (t.erase q).find p = t.find p := by
  rw [find, find, findFrom_erase (by simpa using h)]

theorem find_top (t : Tree α) : t.find [] = .ok (some .folder) := rfl

/-! ## Changes -/

/-- A file is made where nothing was found. -/
theorem eq_of_create (h : t.create p content = .ok t') :
    t.find p = .ok none ∧ t' = t.insert p (.file content) := by
  rw [create] at h
  split at h
  · cases h
  · cases h
  · rename_i hfind
    cases h
    exact ⟨hfind, rfl⟩

/-- A file takes another place, where no folder was found. -/
theorem eq_of_rename (h : t.rename p q = .ok t') :
    ∃ content found, t.find p = .ok (some (.file content)) ∧ t.find q = .ok found ∧
      found ≠ some .folder ∧ t' = (t.erase p).insert q (.file content) := by
  rw [rename] at h
  split at h
  · cases h
  · cases h
  · cases h
  · rename_i content hsource
    split at h
    · cases h
    · cases h
    · rename_i found hfolder htarget
      cases h
      exact ⟨content, found, hsource, htarget, fun hfound => hfolder hfound, rfl⟩

end Tree

/-! ## Saved files -/

/-- The other name of a file is not on the way to it. -/
theorem temporary_not_above (p : Place) : ¬ temporary p <+: p := by
  intro hprefix
  have hlength := hprefix.length_le
  rw [temporary, List.length_append, List.length_dropLast, List.length_singleton] at hlength
  have hp : p ≠ [] := by
    rintro rfl
    simp at hlength
  have hsplit : p = p.dropLast ++ [p.getLastD ""] := by
    rw [List.getLastD_eq_getLast?, List.getLast?_eq_some_getLast hp, Option.getD_some,
      List.dropLast_concat_getLast hp]
  have heq : temporary p = p := by
    apply hprefix.eq_of_length_le
    rw [temporary, List.length_append, List.length_dropLast, List.length_singleton]
    omega
  have hname : "." ++ p.getLastD "" ++ ".tmp" = p.getLastD "" := by
    rw [temporary] at heq
    have hlast := List.append_cancel_left (heq.trans hsplit)
    exact List.cons.inj hlast |>.1
  have hcharacters := congrArg String.length hname
  simp only [String.length_append] at hcharacters
  have hdot : ".".length = 1 := rfl
  omega

namespace Local

/-- There is a file with this content at a path. -/
def Holds (s : Local α) (path : String) (content : α) : Prop :=
  ∃ p, s.place path = .ok p ∧ s.tree.find p = .ok (some (.file content))

variable {t t' : Tree α} {s s' : Local α} {p : Place} {path : String} {content : α}

/-- A file that was written completely is found under its own name. -/
theorem find_of_write (h : write t p content = (t', none)) :
    t'.find p = .ok (some (.file content)) := by
  rw [write] at h
  split at h
  · cases h
  split at h
  · simp only [cleanUp] at h
    split at h <;> cases h
  rename_i folders _ _ written hcreate
  split at h
  · simp only [cleanUp] at h
    split at h <;> cases h
  rename_i renamed hrename
  obtain ⟨rfl, -⟩ := Prod.mk.inj h
  obtain ⟨hfree, rfl⟩ := Tree.eq_of_create hcreate
  obtain ⟨content', found, hsource, htarget, hfolder, rfl⟩ := Tree.eq_of_rename hrename
  have hwritten : (folders.insert (temporary p) (.file content)).find (temporary p) =
      .ok (some (.file content)) := Tree.find_insert_self (by simp [temporary]) hfree
  obtain rfl : content = content' := by
    rw [hwritten] at hsource
    cases hsource
    rfl
  have hp : p ≠ [] := by
    rintro rfl
    rw [Tree.find_top] at htarget
    cases htarget
    exact hfolder rfl
  apply Tree.find_insert_self hp
  rw [Tree.find_erase (temporary_not_above p)]
  exact htarget

/-- **A file that was saved is there**, whatever stood in the way before. -/
theorem holds_of_save (h : s.save path content = (s', none)) : s'.Holds path content := by
  rw [save] at h
  split at h
  · cases h
  · cases h
  rename_i p _ hplace
  rcases hwrite : write s.tree p content with ⟨t, e⟩
  rw [hwrite] at h
  obtain ⟨rfl, he⟩ := Prod.mk.inj h
  rw [Option.map_eq_none_iff] at he
  subst he
  exact ⟨p, hplace, find_of_write hwrite⟩

end Local

end Portrait.Storage
