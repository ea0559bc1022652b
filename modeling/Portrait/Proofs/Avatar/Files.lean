import Portrait.Avatar.Memory

/-!
# Files of avatars and their names

* `path_inj`, `text_eq_of_fileName` — different names lead to different files, and the name of a file
  tells which number was drawn for it.
* `Memory.Uses` — the names that are taken.
* `Fresh` — names still to be drawn that nobody uses.
* `Memory.mem_without`, `Memory.hasFile_iff` — the stored files as a set.
-/

set_option autoImplicit false

namespace Portrait

theorem Text.length_hexDigits (n count : Nat) : (Text.hexDigits n count).length = count := by
  induction count generalizing n with
  | zero => rfl
  | succ count ih => simp [Text.hexDigits, ih]

theorem Uuid.length_hyphenate (sizes : List Nat) (cs : List Char) (hne : sizes ≠ [])
    (hlen : sizes.foldl (· + ·) 0 = cs.length) :
    (Uuid.hyphenate sizes cs).length = cs.length + sizes.length - 1 := by
  have shift (l : List Nat) (a : Nat) : l.foldl (· + ·) a = a + l.foldl (· + ·) 0 := by
    induction l generalizing a with
    | nil => rfl
    | cons b l ih => rw [List.foldl_cons, List.foldl_cons, ih, ih (0 + b)]; omega
  induction sizes generalizing cs with
  | nil => exact absurd rfl hne
  | cons n rest ih =>
    rw [List.foldl_cons, shift] at hlen
    cases rest with
    | nil => simp [Uuid.hyphenate]; simp at hlen; omega
    | cons k rest =>
      have := ih (cs.drop n) (by simp) (by rw [List.length_drop]; omega)
      simp only [Uuid.hyphenate, List.length_append, List.length_take, List.length_cons, this,
        List.length_drop]
      omega

/-- All numbers are written with equally many characters. -/
theorem Uuid.length_text (n : Nat) : (Uuid.text n).toList.length = 36 := by
  have hhex : (Uuid.hex n).toList.length = 32 := by
    simp only [Uuid.hex, String.toList_ofList, Text.length_hexDigits, Uuid.digits]
  simp only [Uuid.text, String.toList_ofList]
  rw [Uuid.length_hyphenate _ _ (by decide) (by rw [hhex]; decide), hhex]
  decide

namespace Avatar

theorem path_inj {a b : String} : path a = path b ↔ a = b :=
  String.append_right_inj folder

/-- Files of one name are of one draw. -/
theorem text_eq_of_fileName {n k : Nat} {a b : Artwork} (h : fileName n a = fileName k b) :
    Uuid.text n = Uuid.text k := by
  have hl : (fileName n a).toList = (fileName k b).toList := congrArg String.toList h
  simp only [fileName, String.toList_append, List.append_assoc] at hl
  have hlen : (Uuid.text n).toList.length = (Uuid.text k).toList.length := by
    rw [Uuid.length_text, Uuid.length_text]
  exact String.toList_inj.1 (List.append_inj_left hl hlen)

theorem length_fileName (n : Nat) (a : Artwork) : 36 < (fileName n a).toList.length := by
  simp only [fileName, String.toList_append, List.length_append, Uuid.length_text]
  simp
  omega

/-- The names from the next draw up to the one numbered `stop`: no two of them are the same, and
nobody uses one of them. -/
structure Fresh (names : Uuid.Supply) (stop : Nat) (used : String → Prop) : Prop where
  apart : ∀ i j, names.drawn ≤ i → i < j → j < stop →
    Uuid.text (names.number i) ≠ Uuid.text (names.number j)
  unused : ∀ i, names.drawn ≤ i → i < stop → ∀ art, ¬ used (fileName (names.number i) art)

namespace Fresh

variable {names : Uuid.Supply} {stop : Nat} {used used' : String → Prop}

theorem mono (h : Fresh names stop used) (hu : ∀ f, used' f → used f) : Fresh names stop used' :=
  ⟨h.apart, fun i hi hs art hf => h.unused i hi hs art (hu _ hf)⟩

/-- When the next name has been drawn, the names after it are still unused, even if that one is used
from now on. -/
theorem next (h : Fresh names stop used) :
    Fresh names.next.2 stop (fun f => used f ∨ ∃ art, f = fileName names.next.1 art) := by
  constructor
  · intro i j hi
    exact h.apart i j (Nat.le_of_succ_le hi)
  · intro i hi hs art hf
    rcases hf with hf | ⟨a, ha⟩
    · exact h.unused i (Nat.le_of_succ_le hi) hs art hf
    · exact h.apart names.drawn i (Nat.le_refl _) hi hs (text_eq_of_fileName ha).symm

end Fresh

namespace Memory

variable {m m' : Memory} {files : List (String × Artwork)} {p : String}

/-- Does a row name the file, or is it stored? -/
def Uses (m : Memory) (file : String) : Prop :=
  (∃ r ∈ m.roster.members, r.avatar = file) ∨ m.hasFile (path file) = true

theorem hasFile_iff : m.hasFile p = true ↔ ∃ art, (p, art) ∈ m.files := by
  simp [hasFile]

theorem hasFile_congr (h : m'.files = m.files) : m'.hasFile p = m.hasFile p := by
  rw [hasFile, hasFile, h]

theorem mem_without {f : String × Artwork} : f ∈ without files p ↔ f ∈ files ∧ f.1 ≠ p := by
  simp [without]

theorem outside_of_lookUp {outside : Memory} {id : Int} {row : Except Cause Member}
    (h : m.lookUp id = (outside, row)) : outside = m.called (.lookUp id) :=
  (congrArg Prod.fst h).symm

theorem find?_of_lookUp {outside : Memory} {id : Int} {owner : Member}
    (h : m.lookUp id = (outside, .ok owner)) : m.roster.find? id = some owner := by
  unfold Memory.lookUp at h
  split at h
  · cases h
  · rename_i row hrow
    cases h
    exact hrow

end Memory

end Avatar

end Portrait
