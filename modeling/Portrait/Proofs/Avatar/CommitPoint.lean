import Portrait.Proofs.Avatar.Files
import Portrait.Proofs.Avatar.Progress
import Portrait.Proofs.Roster

/-!
# The commit point of an update

An update has happened when the row names the new file, and not before. Whatever fails earlier leaves
every row and every stored file as they were, but for the new file itself; what fails later does not
undo the update.

* `Memory.content?` — the stored files as a function of their paths.
* `Abandoned`, `Committed` — what a failed and a successful update leave behind.

Main statement: every update, under any faults, is one or the other (`perform_abandons_or_commits`).
-/

set_option autoImplicit false

namespace Portrait.Avatar

/-! ## Stored files -/

namespace Memory

/-- What is stored at a path. -/
def content? (m : Memory) (p : String) : Option Artwork := m.files.lookup p

variable {m : Memory} {files : List (String × Artwork)} {p q : String} {art : Artwork}

theorem lookup_cons_ite {rest : List (String × Artwork)} :
    ((q, art) :: rest).lookup p = if p = q then some art else rest.lookup p := by
  by_cases hp : p = q
  · subst hp
    simp
  · have hb : (p == q) = false := beq_false_of_ne hp
    simp [List.lookup_cons, hb, hp]

theorem without_cons {f : String × Artwork} {rest : List (String × Artwork)} :
    without (f :: rest) q = if f.1 = q then without rest q else f :: without rest q := by
  by_cases hq : f.1 = q <;> simp [without, hq]

theorem lookup_without :
    (without files q).lookup p = if p = q then none else files.lookup p := by
  induction files with
  | nil => simp [without]
  | cons f rest ih =>
    obtain ⟨r, a⟩ := f
    rw [without_cons, lookup_cons_ite]
    by_cases hr : r = q
    · rw [if_pos hr, ih, hr]
      split <;> rfl
    · rw [if_neg hr, lookup_cons_ite, ih]
      by_cases hp : p = r
      · rw [if_pos hp, if_neg (hp ▸ hr), if_pos hp]
      · rw [if_neg hp, if_neg hp]

theorem content?_eq_none (h : m.hasFile p = false) : m.content? p = none := by
  simp only [content?, List.lookup_eq_none_iff]
  intro f hf
  simp only [hasFile, List.any_eq_false, decide_eq_true_eq] at h
  simpa using fun he => h f hf he.symm

theorem content?_of_unused {file : String} (h : ¬ m.Uses file) : m.content? (path file) = none := by
  refine content?_eq_none ?_
  cases hf : m.hasFile (path file) with
  | false => rfl
  | true => exact absurd (Or.inr hf) h

theorem lookup_stored :
    (without files q ++ [(q, art)]).lookup p = if p = q then some art else files.lookup p := by
  rw [List.lookup_append, lookup_without, lookup_cons_ite]
  by_cases hp : p = q
  · simp [hp]
  · simp [hp]

end Memory

/-! ## What updates leave behind -/

/-- What a failed update leaves behind: all rows and all files are as they were, except that the new
file may have been stored, and that only if the row could not be made to name it. -/
structure Abandoned (s s' : Session Memory) (id : Int) (e : SaveError) : Prop where
  rows : s'.outside.roster = s.outside.roster
  files : s'.outside.content? = s.outside.content? ∨
    (∃ cause, e = .failed .updateRecord cause) ∧
      ∃ art, s.outside.content? (path (fileName s.names.next.1 art)) = none ∧
        ∀ p, s'.outside.content? p =
          if p = path (fileName s.names.next.1 art) then some art else s.outside.content? p
  /-- An upload is refused before anything is done outside. -/
  refused : ∀ r, e = .refused r → s' = s
  /-- Without a row, there is no call but the one that looks for it. -/
  notFound : ∀ cause, e = .notFound cause →
    s'.outside = s.outside.called (.lookUp id)

/-- What a successful update leaves behind: the row of the member names the new file, the new file is
stored, and the previous one is gone unless its removal failed. Nothing else has changed. -/
structure Committed (faults : Faults) (s s' : Session Memory) (id : Int) (file : String) :
    Prop where
  changed : ∃ owner art, s.outside.roster.find? id = some owner ∧
    s'.outside.roster.find? id = some { owner with avatar := file } ∧
    file = fileName s.names.next.1 art ∧ s.outside.content? (path file) = none ∧
    ∀ p, s'.outside.content? p =
      if p = path file then some art
      else if owner.avatar ≠ "" ∧ faults.remove = none ∧ p = path owner.avatar then none
      else s.outside.content? p
  others : ∀ other, other ≠ id →
    s'.outside.roster.find? other = s.outside.roster.find? other

section Publish

variable {faults : Faults} {s : Session Memory} {job : Commission}

/-- The session after a file has been removed, or not. -/
theorem content?_removeOld (file p : String) :
    (removeOld (Memory.collaborators faults) s file).outside.content? p =
      if faults.remove = none ∧ p = path file then none else s.outside.content? p := by
  cases hf : faults.remove with
  | some cause =>
    simp only [removeOld, Memory.collaborators, hf, Memory.remove]
    rw [if_neg (by simp)]
    rfl
  | none =>
    simp only [removeOld, Memory.collaborators, hf, Memory.remove, true_and]
    cases hfile : (s.outside.called (.remove (path file))).hasFile (path file) with
    | true => exact Memory.lookup_without
    | false =>
      show s.outside.content? p = _
      split
      · rename_i hp
        rw [hp]
        exact Memory.content?_eq_none hfile
      · rfl

theorem roster_removeOld (file : String) :
    (removeOld (Memory.collaborators faults) s file).outside.roster = s.outside.roster := by
  cases hf : faults.remove with
  | some cause =>
    simp only [removeOld, Memory.collaborators, hf, Memory.remove]
    rfl
  | none =>
    simp only [removeOld, Memory.collaborators, hf, Memory.remove]
    cases hfile : (s.outside.called (.remove (path file))).hasFile (path file) <;> rfl

/-- Publishing fails before the file is stored, or after. -/
theorem publish_error {s' : Session Memory} {e : SaveError}
    (row : s.outside.roster.find? job.owner.id = some job.owner)
    (h : publish (Memory.collaborators faults) s job = (s', .error e)) :
    s'.outside.roster = s.outside.roster ∧ ∃ stage cause, e = .failed stage cause ∧
      (s'.outside.files = s.outside.files ∨ stage = .updateRecord ∧
        s'.outside.files =
          Memory.without s.outside.files (path (fileName s.names.next.1 job.art)) ++
            [(path (fileName s.names.next.1 job.art), job.art)]) := by
  cases hs : faults.store with
  | some cause =>
    simp only [publish, store, Memory.collaborators, hs, Memory.store] at h
    cases h
    exact ⟨rfl, _, _, rfl, Or.inl rfl⟩
  | none =>
    cases hr : faults.record with
    | some cause =>
      simp only [publish, store, replace, Memory.collaborators, hs, hr, Memory.store,
        Memory.record] at h
      cases h
      exact ⟨rfl, _, _, rfl, Or.inr ⟨rfl, rfl⟩⟩
    | none =>
      simp only [publish, store, replace, Memory.collaborators, hs, hr, Memory.store,
        Memory.record, Session.note, Memory.called, row] at h
      cases h

/-- Publishing succeeds: the file was stored and the row changed, and only then the previous file was
removed, if there was one. -/
theorem publish_ok {s' : Session Memory} {file : String}
    (row : s.outside.roster.find? job.owner.id = some job.owner)
    (h : publish (Memory.collaborators faults) s job = (s', .ok file)) :
    file = fileName s.names.next.1 job.art ∧
      ∃ t : Session Memory, t.outside.roster = s.outside.roster.setAvatar job.owner.id file ∧
        t.outside.files =
          Memory.without s.outside.files (path file) ++ [(path file, job.art)] ∧
        s' = (if job.owner.avatar = "" then t
          else removeOld (Memory.collaborators faults) t job.owner.avatar).note
            (job.event file) := by
  cases hs : faults.store with
  | some cause =>
    simp only [publish, store, Memory.collaborators, hs, Memory.store] at h
    cases h
  | none =>
    cases hr : faults.record with
    | some cause =>
      simp only [publish, store, replace, Memory.collaborators, hs, hr, Memory.store,
        Memory.record] at h
      cases h
    | none =>
      simp only [publish, store, replace, Memory.collaborators, hs, hr, Memory.store,
        Memory.record, Session.note, Memory.called, row] at h
      simp only [Prod.mk.injEq, Except.ok.injEq] at h
      obtain ⟨rfl, rfl⟩ := h
      refine ⟨rfl, _, ?_, ?_, rfl⟩
      · rfl
      · rfl

theorem committed_of_publish {s' : Session Memory} {file : String}
    (row : s.outside.roster.find? job.owner.id = some job.owner)
    (fresh : ∀ art, ¬ s.outside.Uses (fileName s.names.next.1 art))
    (h : publish (Memory.collaborators faults) s job = (s', .ok file)) :
    Committed faults s s' job.owner.id file := by
  obtain ⟨hname, t, hroster, hfiles, rfl⟩ := publish_ok row h
  have hunused : ¬ s.outside.Uses file := hname ▸ fresh job.art
  have hnew : s.outside.content? (path file) = none := Memory.content?_of_unused hunused
  have hold : file ≠ job.owner.avatar := fun he =>
    hunused (Or.inl ⟨job.owner, Roster.mem_of_find? row, he.symm⟩)
  have hstored : ∀ p, t.outside.content? p =
      if p = path file then some job.art else s.outside.content? p := by
    intro p
    rw [Memory.content?, hfiles, Memory.lookup_stored]
    rfl
  have hrows : (if job.owner.avatar = "" then t
      else removeOld (Memory.collaborators faults) t job.owner.avatar).outside.roster =
        s.outside.roster.setAvatar job.owner.id file := by
    split
    · exact hroster
    · rw [roster_removeOld, hroster]
  have hrest : ∀ p, (if job.owner.avatar = "" then t
      else removeOld (Memory.collaborators faults) t job.owner.avatar).outside.content? p =
        if p = path file then some job.art
        else if job.owner.avatar ≠ "" ∧ faults.remove = none ∧ p = path job.owner.avatar then none
        else s.outside.content? p := by
    intro p
    split
    · rename_i hnone
      simp [hstored, hnone]
    · rename_i hsome
      rw [content?_removeOld, hstored]
      by_cases hp : p = path file
      · have hne : ¬ path file = path job.owner.avatar := fun he => hold (path_inj.1 he)
        simp [hp, hne]
      · simp [hp, hsome]
  refine ⟨⟨job.owner, job.art, row, ?_, hname, hnew, hrest⟩, fun other hne => ?_⟩
  · show (Roster.find? _ _) = _
    rw [Session.note, hrows]
    exact Roster.find?_setAvatar_self row
  · rw [Session.note, hrows]
    exact Roster.find?_setAvatar_of_ne hne

end Publish

/-- **The change of the row is the commit point.** An update that fails leaves all rows as they were,
and one that succeeds leaves the new avatar in force. -/
theorem perform_abandons_or_commits (faults : Faults) (settings : Settings) (s : Session Memory)
    (u : Update) (fresh : ∀ art, ¬ s.outside.Uses (fileName s.names.next.1 art)) :
    (∀ s' e, u.perform (Memory.collaborators faults) settings s = (s', .error e) →
      Abandoned s s' u.member e) ∧
    ∀ s' file, u.perform (Memory.collaborators faults) settings s = (s', .ok file) →
      Committed faults s s' u.member file := by
  have hb := u.begun (c := Memory.collaborators faults) (s := s) settings
  rw [perform_eq_begin]
  generalize u.begin (Memory.collaborators faults) settings s = r at hb
  cases hb with
  | refused r =>
    refine ⟨fun s' e h => ?_, fun s' file h => by cases h⟩
    cases h
    exact ⟨rfl, Or.inl rfl, fun _ _ => rfl, nofun⟩
  | notFound cause row =>
    refine ⟨fun s' e h => ?_, fun s' file h => by cases h⟩
    cases h
    obtain rfl := Memory.outside_of_lookUp row
    exact ⟨rfl, Or.inl rfl, nofun, fun _ _ => rfl⟩
  | @failed t owner stage cause row names =>
    refine ⟨fun s' e h => ?_, fun s' file h => by cases h⟩
    cases h
    have ho := Memory.outside_of_lookUp row
    exact ⟨by rw [ho]; rfl, Or.inl (by rw [ho]; rfl), nofun, nofun⟩
  | @crafted t job row names =>
    have hrow := Memory.find?_of_lookUp row
    have hid := Roster.id_of_find? hrow
    obtain ⟨outside, supply, draws, log⟩ := t
    obtain rfl := Memory.outside_of_lookUp row
    obtain rfl : supply = s.names := names
    rw [← hid] at hrow ⊢
    constructor
    · intro s' e h
      change publish _ _ job = _ at h
      obtain ⟨hroster, stage, cause, rfl, hf | ⟨rfl, hf⟩⟩ := publish_error (by exact hrow) h
      · exact ⟨hroster, Or.inl (funext fun p => congrArg (List.lookup p) hf), nofun, nofun⟩
      · refine ⟨hroster, Or.inr ⟨⟨cause, rfl⟩, job.art, ?_, fun p => ?_⟩, nofun, nofun⟩
        · exact Memory.content?_of_unused (fresh job.art)
        rw [Memory.content?, hf]
        exact Memory.lookup_stored
    · intro s' file h
      change publish _ _ job = _ at h
      have hc := committed_of_publish (by exact hrow) (by exact fresh) h
      exact ⟨hc.changed, hc.others⟩

/-- A member whose avatar is not stored. -/
def oneMember : Session Memory where
  outside := { roster := ⟨[{ id := 1, name := "ada", avatar := "old.gif" }]⟩ }
  names := { number := fun _ => 7 }
  draws := {}

theorem letter_commits :
    (∀ art, ¬ oneMember.outside.Uses (fileName oneMember.names.next.1 art)) ∧
      Committed { remove := some .emptyPicture } oneMember
        ((Update.letter 1).perform (Memory.collaborators { remove := some .emptyPicture })
          { secretKey := "" } oneMember).1 1 "00000000-0000-0000-0000-000000000007.png" := by
  have fresh : ∀ art, ¬ oneMember.outside.Uses (fileName oneMember.names.next.1 art) := by
    rintro art (⟨r, hr, hf⟩ | hf)
    · have hlen := length_fileName oneMember.names.next.1 art
      rw [← hf] at hlen
      simp only [oneMember, List.mem_singleton] at hr
      subst hr
      exact absurd hlen (by decide)
    · exact absurd hf (by simp [Memory.hasFile, oneMember])
  exact ⟨fresh, (perform_abandons_or_commits { remove := some .emptyPicture } { secretKey := "" }
    oneMember (.letter 1) fresh).2 _ _ rfl⟩

end Portrait.Avatar
