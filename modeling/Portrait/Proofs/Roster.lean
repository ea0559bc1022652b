import Mathlib.Data.List.Forall2
import Portrait.Avatar.Records

/-!
# Changes to the table of members

What a change to the row of one member does to the rows that are found and to the rows that there are.

* `find?_update_self`, `find?_update_of_ne` — the rows that are found after a change.
* `mem_update` — the rows after a change.
* `Member.Kept`, `Member.Edited` — what nobody may change in a row, and what someone may.
* `Kept`, `Edited` — the same for all rows of a table, none of which comes or goes.
-/

set_option autoImplicit false

namespace Portrait

namespace Roster

variable {r : Roster} {id other : Int} {m : Member} {change : Member → Member}

theorem mem_of_find? (h : r.find? id = some m) : m ∈ r.members :=
  List.mem_of_find?_eq_some h

theorem id_of_find? (h : r.find? id = some m) : m.id = id := by
  simpa using List.find?_some h

theorem mem_update {a : Member} :
    a ∈ (r.update id change).members ↔
      ∃ b ∈ r.members, (if b.id = id then change b else b) = a := by
  simp only [update, List.mem_map]

theorem id_update (hid : ∀ a, (change a).id = a.id) (a : Member) :
    (if a.id = id then change a else a).id = a.id := by
  split
  · exact hid a
  · rfl

/-- A change that keeps numbers commutes with the search for a row. -/
theorem find?_update (hid : ∀ a, (change a).id = a.id) :
    (r.update id change).find? other =
      (r.find? other).map fun a => if a.id = id then change a else a := by
  unfold find? update
  rw [List.find?_map]
  congr 2
  funext a
  simp only [Function.comp_apply, id_update hid]

theorem find?_update_self (hid : ∀ a, (change a).id = a.id) :
    (r.update id change).find? id = (r.find? id).map change := by
  rw [find?_update hid]
  cases h : r.find? id with
  | none => rfl
  | some a => simp [id_of_find? h]

theorem find?_update_of_ne (hid : ∀ a, (change a).id = a.id) (hne : other ≠ id) :
    (r.update id change).find? other = r.find? other := by
  rw [find?_update hid]
  cases h : r.find? other with
  | none => rfl
  | some a => simp [id_of_find? h, hne]

theorem find?_setAvatar_self {file : String} (h : r.find? id = some m) :
    (r.setAvatar id file).find? id = some { m with avatar := file } := by
  unfold setAvatar
  rw [find?_update_self (by simp), h]
  rfl

theorem find?_setName_self (name : String) (h : r.find? id = some m) :
    (r.setName id name).find? id = some { m with name := name } := by
  unfold setName
  rw [find?_update_self (by simp), h]
  rfl

theorem find?_setAvatar_of_ne {file : String} (hne : other ≠ id) :
    (r.setAvatar id file).find? other = r.find? other :=
  find?_update_of_ne (fun _ => rfl) hne

/-- A row of the table after a member got another avatar: the member's own, with that avatar, or a row
of before that is another member's. -/
theorem mem_setAvatar {a : Member} {file : String} (h : a ∈ (r.setAvatar id file).members) :
    (a.id = id ∧ a.avatar = file) ∨ (a.id ≠ id ∧ a ∈ r.members) := by
  obtain ⟨b, hb, rfl⟩ := mem_update.1 h
  split
  · rename_i hid
    exact Or.inl ⟨hid, rfl⟩
  · rename_i hid
    exact Or.inr ⟨hid, hb⟩

/-- A row of the table after a member got another name has the number and avatar of a row of before. -/
theorem mem_setName {a : Member} {name : String} (h : a ∈ (r.setName id name).members) :
    ∃ b ∈ r.members, a.id = b.id ∧ a.avatar = b.avatar := by
  obtain ⟨b, hb, rfl⟩ := mem_update.1 h
  refine ⟨b, hb, ?_⟩
  split <;> exact ⟨rfl, rfl⟩

end Roster

/-! ## Edited rows -/

namespace Member

/-- The row still has its number, its rights and its moment of joining. -/
structure Kept (m m' : Member) : Prop where
  id : m'.id = m.id
  isAdmin : m'.isAdmin = m.isAdmin
  isBlocked : m'.isBlocked = m.isBlocked
  joined : m'.joined = m.joined

/-- What a caller may make of a row on behalf of one member. The caller may give no other name than
the own one. -/
structure Edited (caller target : Int) (m m' : Member) : Prop extends Kept m m' where
  others : m.id ≠ target → m' = m
  name : m'.name ≠ m.name → m.id = caller

variable {caller target : Int} {m₁ m₂ m₃ : Member}

theorem Kept.trans (h : m₁.Kept m₂) (h' : m₂.Kept m₃) : m₁.Kept m₃ :=
  ⟨h'.id.trans h.id, h'.isAdmin.trans h.isAdmin, h'.isBlocked.trans h.isBlocked,
    h'.joined.trans h.joined⟩

theorem Edited.refl (m : Member) : m.Edited caller target m :=
  ⟨⟨rfl, rfl, rfl, rfl⟩, fun _ => rfl, fun hne => absurd rfl hne⟩

theorem Edited.trans (h : m₁.Edited caller target m₂) (h' : m₂.Edited caller target m₃) :
    m₁.Edited caller target m₃ where
  toKept := h.toKept.trans h'.toKept
  others hne := (h'.others (by rwa [h.id])).trans (h.others hne)
  name hne := by
    by_cases hfirst : m₂.name = m₁.name
    · rw [← h.id]
      exact h'.name (by rwa [hfirst])
    · exact h.name hfirst

end Member

namespace Roster

/-- The same rows in the same order, each with its number, its rights and its moment of joining. -/
def Kept (r r' : Roster) : Prop := List.Forall₂ Member.Kept r.members r'.members

/-- The same rows in the same order, each as a caller may edit it on behalf of one member. -/
def Edited (caller target : Int) (r r' : Roster) : Prop :=
  List.Forall₂ (Member.Edited caller target) r.members r'.members

theorem forall₂_trans {α : Type} {R : α → α → Prop} (hR : ∀ a b c, R a b → R b c → R a c)
    {xs ys zs : List α} (h : List.Forall₂ R xs ys) (h' : List.Forall₂ R ys zs) :
    List.Forall₂ R xs zs := by
  induction h generalizing zs with
  | nil => exact h'
  | cons hxy _ ih =>
    cases h' with
    | cons hyz hrest => exact .cons (hR _ _ _ hxy hyz) (ih hrest)

variable {r r₁ r₂ r₃ : Roster} {caller target id : Int}

theorem Kept.refl (r : Roster) : r.Kept r :=
  List.forall₂_same.2 fun _ _ => ⟨rfl, rfl, rfl, rfl⟩

theorem Kept.trans (h : r₁.Kept r₂) (h' : r₂.Kept r₃) : r₁.Kept r₃ :=
  forall₂_trans (R := Member.Kept) (fun _ _ _ => Member.Kept.trans) h h'

theorem Edited.refl (r : Roster) : r.Edited caller target r :=
  List.forall₂_same.2 fun m _ => .refl m

theorem Edited.trans (h : r₁.Edited caller target r₂) (h' : r₂.Edited caller target r₃) :
    r₁.Edited caller target r₃ :=
  forall₂_trans (R := Member.Edited caller target) (fun _ _ _ => Member.Edited.trans) h h'

theorem Edited.kept (h : r₁.Edited caller target r₂) : r₁.Kept r₂ :=
  h.imp fun _ _ hm => hm.toKept

theorem edited_update {change : Member → Member}
    (h : ∀ m : Member, m.id = id → m.Edited caller id (change m)) :
    r.Edited caller id (r.update id change) := by
  rw [Edited, update, List.forall₂_map_right_iff, List.forall₂_same]
  intro m _
  split
  · rename_i hid
    exact h m hid
  · exact .refl m

/-- Anyone may edit an avatar on behalf of its member. -/
theorem edited_setAvatar (file : String) : r.Edited caller id (r.setAvatar id file) :=
  edited_update fun _ hid =>
    ⟨⟨rfl, rfl, rfl, rfl⟩, fun hne => absurd hid hne, fun hne => absurd rfl hne⟩

/-- Members may edit their own names. -/
theorem edited_setName (name : String) : r.Edited id id (r.setName id name) :=
  edited_update fun _ hid => ⟨⟨rfl, rfl, rfl, rfl⟩, fun hne => absurd hid hne, fun _ => hid⟩

end Roster

end Portrait
