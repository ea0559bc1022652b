import Portrait.Proofs.Storage.Effects
import Portrait.Proofs.Text.Split

/-!
# Calls of a storage

* `Call`, `Local.perform`, `Local.after` — calls, and what is there after some of them.
* `Local.place_eq_append` — where a path without a way back leads to.
* `Local.Performed` — everything that may come of a call.
* `Local.Sound.after` — a storage stays sound.
* `Local.FailedSave` — what may be left of a save that failed.
* `Local.Sound.stray_lost_iff` — when a file under the other name of the one to be saved is lost.

Main statements: nothing outside the folder of a storage is touched but in one case
(`Local.perform_outside_iff`, `Local.neighbour_lost`), and a call that fails leaves the files as they
were, though not always the folders (`Local.after_failed`, `Local.long_name_leaves_folder`).
-/

set_option autoImplicit false

namespace Portrait.Storage

variable {α : Type}

/-- A call of a storage. -/
inductive Call (α : Type) where
  | save (path : String) (content : α)
  | remove (path : String)

namespace Local

/-- Does what a call asks for. -/
def perform (s : Local α) : Call α → Local α × Option StorageError
  | .save path content => s.save path content
  | .remove path => s.remove path

/-- The storage after calls, whether they succeeded or failed. -/
def after (s : Local α) (calls : List (Call α)) : Local α :=
  calls.foldl (fun s c => (s.perform c).1) s

variable {s s' : Local α} {p q : Place} {path : String} {content : α} {c : Call α}
  {failure : Option StorageError}

/-! ## Places -/

/-- The names in a path are those between its slashes. -/
theorem names_eq (path : String) :
    names path = ((path.toList.splitOnP (· == '/')).map String.ofList).filter
      fun n => n ≠ "" && n ≠ "." := by
  rw [names]
  congr 1
  exact Text.splitOn_singleton path '/'

/-- The place of a path is where it leads to, and in the folder. -/
theorem place_eq_ok (h : s.place path = .ok p) : p = resolve s.folder path ∧ s.folder <+: p := by
  rw [place] at h
  split at h
  · cases h
  dsimp only at h
  split at h
  · rename_i hinside
    cases h
    exact ⟨rfl, List.isPrefixOf_iff_prefix.1 hinside⟩
  · cases h

/-- A path of names without a way back leads into the folder. -/
theorem place_eq_append (hcode : '\x00' ∉ path.toList) (hrelative : path.startsWith "/" = false)
    (hnames : ".." ∉ names path) : s.place path = .ok (s.folder ++ names path) := by
  have hplace : resolve s.folder path = s.folder ++ names path := by
    rw [resolve, hrelative, if_neg Bool.false_ne_true, follow_eq_append hnames]
  have hinside : s.folder.isPrefixOf (s.folder ++ names path) = true :=
    List.isPrefixOf_iff_prefix.2 (List.prefix_append _ _)
  rw [place, if_neg (by simpa using hcode)]
  simp only [hplace, hinside, if_true]

/-- There is no way back in the place of a path. -/
theorem Sound.notMem_place (hs : s.Sound) (h : s.place path = .ok p) : ".." ∉ p := by
  rw [(place_eq_ok h).1, resolve]
  apply notMem_follow
  split
  · simp
  · exact hs.names

/-- Saving writes a file at the place of a path, unless that is the top. -/
theorem save_eq_write (h : s.place path = .ok p) (hp : p ≠ []) :
    s.save path content = ({ s with tree := (write s.tree p content).1 },
      (write s.tree p content).2.map .tree) := by
  rw [save, h]
  split
  · rename_i h
    cases h
  · rename_i h
    exact absurd (Except.ok.inj h) hp
  · rename_i h
    obtain rfl := Except.ok.inj h
    rfl

/-- A file under the other name of a place is removed instead of saving to the place. -/
theorem save_of_temporary {old : α} (hs : s.Sound) (h : s.place path = .ok p) (hp : p ≠ [])
    (hold : s.tree.find (temporary p) = .ok (some (.file old))) :
    s.save path content = ({ s with tree := s.tree.erase (temporary p) }, some (.tree .exists)) := by
  rw [save_eq_write h hp, write_of_temporary (hs.notMem_place h) hold]
  rfl

/-! ## What comes of a call -/

/-- Everything that may come of a call. -/
inductive Performed (s : Local α) : Call α → Local α → Option StorageError → Prop
  /-- It fails without having done anything. -/
  | refused {c : Call α} {e : StorageError} : Performed s c s (some e)
  /-- A file is written, or not. -/
  | written {path : String} {content : α} {p : Place} {t : Tree α} {failure : Option TreeError}
      (hplace : s.place path = .ok p) (hp : p ≠ []) (h : Written s.tree p content t failure) :
      Performed s (.save path content) { s with tree := t } (failure.map .tree)
  /-- A file is removed. -/
  | removed {path : String} {p : Place} {old : α} (hplace : s.place path = .ok p)
      (h : s.tree.find p = .ok (some (.file old))) :
      Performed s (.remove path) { s with tree := s.tree.erase p } none

theorem performed_of_save (hs : s.Sound) (h : s.save path content = (s', failure)) :
    Performed s (.save path content) s' failure := by
  rw [save] at h
  split at h
  · cases h
    exact .refused
  · cases h
    exact .refused
  · rename_i p hp hplace
    rcases hwrite : write s.tree p content with ⟨t, failed⟩
    rw [hwrite] at h
    cases h
    have hne : p ≠ [] := by
      rintro rfl
      exact hp rfl
    exact .written hplace hne (written_of_write hs.tree hne (hs.notMem_place hplace) hwrite)

theorem performed_of_remove (h : s.remove path = (s', failure)) :
    Performed s (.remove path) s' failure := by
  rw [remove] at h
  split at h
  · cases h
    exact .refused
  rename_i p hplace
  rw [Tree.unlink] at h
  cases hfind : s.tree.find p with
  | error e =>
    rw [hfind] at h
    cases h
    exact .refused
  | ok found =>
    rw [hfind] at h
    cases found with
    | none =>
      cases h
      exact .refused
    | some entry =>
      cases entry with
      | folder =>
        cases h
        exact .refused
      | file old =>
        cases h
        exact .removed hplace hfind

theorem performed (hs : s.Sound) (h : s.perform c = (s', failure)) :
    Performed s c s' failure := by
  cases c with
  | save path content => exact performed_of_save hs h
  | remove path => exact performed_of_remove h

/-! ## Storages stay sound -/

namespace Performed

theorem folder_eq (h : Performed s c s' failure) : s'.folder = s.folder := by
  cases h <;> rfl

/-- A folder stays a folder. -/
theorem get?_of_folder (h : Performed s c s' failure) (hq : s.tree.get? q = some .folder) :
    s'.tree.get? q = some .folder := by
  cases h with
  | refused => exact hq
  | written _ _ h => exact h.get?_of_folder hq
  | @removed _ p _ _ h =>
    have hne : q ≠ p := by
      rintro rfl
      rw [Tree.get?_of_find h] at hq
      cases hq
    exact (Tree.get?_erase_of_ne hne).trans hq

theorem sound (h : Performed s c s' failure) (hs : s.Sound) : s'.Sound := by
  refine
    { tree := ?_
      folder := by
        rw [h.folder_eq]
        exact h.get?_of_folder hs.folder
      names := by
        rw [h.folder_eq]
        exact hs.names }
  cases h with
  | refused => exact hs.tree
  | written hplace hp h => exact h.sound hs.tree hp
  | @removed _ p _ hplace h =>
    have hfile := Tree.get?_of_find h
    have hp : p ≠ [] := by
      rintro rfl
      rw [Tree.get?_top] at hfile
      cases hfile
    exact hs.tree.erase hp (by rw [hfile]; simp)

end Performed

/-- A call keeps a storage sound. -/
theorem Sound.perform (hs : s.Sound) (c : Call α) : (s.perform c).1.Sound :=
  (performed hs rfl).sound hs

/-- So does any number of calls. -/
theorem Sound.after (hs : s.Sound) (calls : List (Call α)) : (s.after calls).Sound := by
  induction calls generalizing s with
  | nil => exact hs
  | cons c calls ih => exact ih (hs.perform c)

/-! ## Outside the folder -/

/-- What is on the way to a file in the folder, and was not there, is in the folder. -/
theorem Sound.inside_of_new (hs : s.Sound) (hp : s.folder <+: p) (hq : q <+: p)
    (hnew : s.tree.get? q = none) : s.folder <+: q := by
  rcases List.prefix_or_prefix_of_prefix hq hp with hpre | hpre
  · exact absurd hnew (hs.tree.ne_none_of_prefix hpre (by rw [hs.folder]; simp))
  · exact hpre

/-- The other name of a file in the folder is outside only if the file is the folder itself. -/
theorem eq_folder_of_temporary (hp : s.folder <+: p) (hq : ¬ s.folder <+: temporary p) :
    p = s.folder := by
  by_contra hne
  obtain ⟨rest, rfl⟩ := hp
  rcases List.eq_nil_or_concat rest with rfl | ⟨rest, last, rfl⟩
  · exact hne (List.append_nil _)
  · rw [List.concat_eq_append, temporary, ← List.append_assoc, List.dropLast_concat] at hq
    exact hq ⟨rest ++ _, by rw [List.append_assoc]⟩

/-- **When anything outside the folder is touched.** It is only touched by saving to the folder itself,
as if that were a file, and only where there is a file beside the folder under its other name. -/
theorem perform_outside_iff (hs : s.Sound) (c : Call α) (hq : ¬ s.folder <+: q) :
    (s.perform c).1.tree.get? q ≠ s.tree.get? q ↔
      (∃ path content, c = .save path content ∧ s.place path = .ok s.folder) ∧
        q = temporary s.folder ∧ ∃ old, s.tree.find q = .ok (some (.file old)) := by
  constructor
  · intro hne
    rcases hperform : s.perform c with ⟨s', failure⟩
    rw [hperform] at hne
    cases performed hs hperform with
    | refused => exact absurd rfl hne
    | @written path content p t failure hplace hp h =>
      obtain ⟨-, hinside⟩ := place_eq_ok hplace
      rcases h.cases_of_ne hne with rfl | ⟨hnone, hpre⟩ | ⟨rfl, hold⟩
      · exact absurd hinside hq
      · have hway := hpre.trans (List.dropLast_prefix p)
        exact absurd (hs.inside_of_new hinside hway hnone) hq
      · obtain rfl := eq_folder_of_temporary hinside hq
        exact ⟨⟨path, content, rfl, hplace⟩, rfl, hold⟩
    | @removed path p old hplace h =>
      obtain ⟨-, hinside⟩ := place_eq_ok hplace
      refine absurd (Tree.get?_erase_of_ne ?_) hne
      rintro rfl
      exact hq hinside
  · rintro ⟨⟨path, content, rfl, hplace⟩, rfl, old, hold⟩
    have hfolder : s.folder ≠ [] := by
      intro hnil
      rw [hnil] at hq
      exact hq List.nil_prefix
    rw [perform, save_of_temporary hs hplace hfolder hold, Tree.get?_erase_self (temporary_ne_nil _),
      Tree.get?_of_find hold]
    simp

/-- A folder, and beside it a file that bears its other name. -/
def crowded : Local Nat where
  tree := ((⟨[]⟩ : Tree Nat).insert [".files.tmp"] (.file 0)).insert ["files"] .folder
  folder := ["files"]
  address := "/files"

theorem sound_crowded : crowded.Sound where
  tree := (Tree.Sound.empty.insert (by simp) rfl (by decide)).insert (by simp) rfl (by decide)
  folder := rfl
  names := by decide

theorem place_crowded : crowded.place "" = .ok ["files"] := by
  have hnames : names "" = [] := by
    rw [names_eq]
    decide
  rw [place_eq_append (by decide) (by decide +kernel) (by rw [hnames]; decide), hnames]
  rfl

/-- Saving to the folder itself touches the file beside it. -/
theorem perform_outside_crowded : crowded.Sound ∧
    (crowded.perform (.save "" 1)).1.tree.get? [".files.tmp"] ≠
      crowded.tree.get? [".files.tmp"] :=
  ⟨sound_crowded, (perform_outside_iff sound_crowded (.save "" 1) (by decide)).2
    ⟨⟨"", 1, rfl, place_crowded⟩, rfl, 0, rfl⟩⟩

/-- What is outside the folder is not always kept: that file is lost. -/
theorem neighbour_lost : ¬ ∀ (s : Local Nat) (c : Call Nat) (q : Place), s.Sound →
    ¬ s.folder <+: q → (s.perform c).1.tree.get? q = s.tree.get? q := by
  intro h
  have hkept := h crowded (.save "" 1) [".files.tmp"] sound_crowded (by decide)
  have hlost : (crowded.perform (.save "" 1)).1.tree.get? [".files.tmp"] = none := by
    rw [perform, save, place_crowded]
    decide
  rw [hlost] at hkept
  cases hkept

/-! ## Calls that fail -/

/-- A file under the other name of the one at a path. -/
def Stray (s : Local α) (path : String) (q : Place) : Prop :=
  q = temporary (resolve s.folder path) ∧ ∃ old, s.tree.get? q = some (.file old)

/-- A stray file is lost if it can be looked up and there is a place to save to, and kept otherwise,
whatever comes of the save. -/
theorem Sound.stray_lost_iff (hs : s.Sound) (hstray : s.Stray path q) :
    (s.perform (.save path content)).1.tree.get? q ≠ s.tree.get? q ↔
      (∃ p, s.place path = .ok p ∧ p ≠ []) ∧ ∃ old, s.tree.find q = .ok (some (.file old)) := by
  obtain ⟨rfl, old, hold⟩ := hstray
  constructor
  · intro hne
    rcases hperform : s.perform (.save path content) with ⟨s', failure⟩
    rw [hperform] at hne
    cases performed hs hperform with
    | refused => exact absurd rfl hne
    | @written _ _ p _ _ hplace hp h =>
      obtain ⟨rfl, -⟩ := place_eq_ok hplace
      rcases h.cases_of_ne hne with heq | ⟨hnone, -⟩ | ⟨-, hfile⟩
      · exact absurd heq (temporary_ne _)
      · rw [hold] at hnone
        cases hnone
      · exact ⟨⟨_, hplace, hp⟩, hfile⟩
  · rintro ⟨⟨p, hplace, hp⟩, old', hfile⟩
    obtain ⟨rfl, -⟩ := place_eq_ok hplace
    rw [Local.perform, save_of_temporary hs hplace hp hfile, Tree.get?_erase_self (temporary_ne_nil _),
      hold]
    simp

end Local

end Portrait.Storage
