import Portrait.Proofs.Avatar.Files
import Portrait.Proofs.Avatar.Progress
import Portrait.Proofs.Roster

/-!
# Updates in any order

Any number of updates are under way, for the same members or for others. Their steps are taken in
any order, and members change their names in between. Calls fail; a store that fails may have left a
file behind, and a removal that fails may have removed the file. An update that is never advanced
again has been stopped for good.

* `Mishaps`, `Memory.unreliable` — calls that fail, with or without an effect.
* `Traffic.run` — what becomes of a session and the updates on it, for any sequence of turns.
* `Progress.Effect` — everything that a step can do to the table, to the files and to the names.
* `Traffic.Inv` — the invariant. It ties the file names that updates remember to the rows: a row
  that was read may be out of date, but the file it named is then named by no row at all.

Main statement: no avatar that a row names is ever lost (`run_keeps_avatars`).
-/

set_option autoImplicit false

namespace Portrait.Avatar

/-- Which calls fail, and what failing calls have done nevertheless. -/
structure Mishaps where
  faults : Faults := {}
  /-- What a store that fails leaves at the path. -/
  leftover : Option Artwork := none
  /-- Has a removal that fails removed the file? -/
  gone : Bool := false

/-- Collaborators in memory of which failing calls may have had an effect. The row of a member is not
changed by a call that fails. -/
def Memory.unreliable (x : Mishaps) : Collaborators Memory :=
  { collaborators x.faults with
    store := fun m path art =>
      match store x.faults.store m path art, x.leftover with
      | (m, some cause), some rest =>
        ({ m with files := without m.files path ++ [(path, rest)] }, some cause)
      | r, _ => r
    remove := fun m path =>
      match remove x.faults.remove m path, x.gone with
      | (m, some cause), true => ({ m with files := without m.files path }, some cause)
      | r, _ => r }

/-- A session and the updates on it. -/
structure Traffic where
  session : Session Memory
  updates : List Progress := []

/-- What happens next. -/
inductive Turn where
  /-- One more update is asked for. -/
  | ask (u : Update)
  /-- An update takes its next step, in which calls may fail. -/
  | advance (i : Nat) (mishaps : Mishaps)
  | rename (id : Int) (name : String)

/-- The session in which a member has another name. -/
def rename (s : Session Memory) (id : Int) (name : String) : Session Memory :=
  { s with outside := { s.outside with roster := s.outside.roster.setName id name } }

namespace Traffic

def turn (settings : Settings) (t : Traffic) : Turn → Traffic
  | .ask u => { t with updates := t.updates ++ [.asked u] }
  | .advance i mishaps =>
    match t.updates[i]? with
    | none => t
    | some p =>
      let (s, p') := p.step (Memory.unreliable mishaps) settings t.session
      ⟨s, t.updates.set i p'⟩
  | .rename id name => { t with session := rename t.session id name }

def run (settings : Settings) (t : Traffic) (turns : List Turn) : Traffic :=
  turns.foldl (turn settings) t

end Traffic

/-! ## What a step does -/

/-- The row that an update has read. -/
def Progress.owner? : Progress → Option Member
  | .crafted job => some job.owner
  | .stored job _ => some job.owner
  | .recorded job _ => some job.owner
  | _ => none

/-- The file that an update has stored and that no row names yet. -/
def Progress.waiting? : Progress → Option String
  | .stored _ file => some file
  | _ => none

/-- Does the row already name the new file? -/
def Progress.isRecorded : Progress → Bool
  | .recorded _ _ => true
  | _ => false

/-- What one step of an update does to the table, the files and the names: it ends, it leaves
something behind, it reads a row, or it does one of the three things that an update is for. -/
inductive Progress.Effect (s : Session Memory) (p : Progress) (s' : Session Memory) :
    Progress → Prop where
  | ended (result : Except SaveError String) (roster : s'.outside.roster = s.outside.roster)
      (files : s'.outside.files = s.outside.files)
      (names : s'.names = s.names ∨ s'.names = s.names.next.2) : Effect s p s' (.finished result)
  | spoiled (result : Except SaveError String) (job : Commission) (rest : Artwork)
      (roster : s'.outside.roster = s.outside.roster)
      (files : s'.outside.files =
        Memory.without s.outside.files (path (fileName s.names.next.1 job.art)) ++
          [(path (fileName s.names.next.1 job.art), rest)])
      (names : s'.names = s.names.next.2) : Effect s p s' (.finished result)
  | read (job : Commission) (row : s.outside.roster.find? job.owner.id = some job.owner)
      (roster : s'.outside.roster = s.outside.roster)
      (files : s'.outside.files = s.outside.files) (names : s'.names = s.names) :
      Effect s p s' (.crafted job)
  | stored (job : Commission) (file : String) (before : p = .crafted job)
      (drawn : file = fileName s.names.next.1 job.art)
      (roster : s'.outside.roster = s.outside.roster)
      (files : s'.outside.files =
        Memory.without s.outside.files (path file) ++ [(path file, job.art)])
      (names : s'.names = s.names.next.2) : Effect s p s' (.stored job file)
  | recorded (job : Commission) (file : String) (before : p = .stored job file)
      (roster : s'.outside.roster = s.outside.roster.setAvatar job.owner.id file)
      (files : s'.outside.files = s.outside.files) (names : s'.names = s.names) :
      Effect s p s' (.recorded job file)
  | removed (job : Commission) (file : String) (before : p = .recorded job file)
      (had : job.owner.avatar ≠ "") (roster : s'.outside.roster = s.outside.roster)
      (files : s'.outside.files = Memory.without s.outside.files (path job.owner.avatar))
      (names : s'.names = s.names) : Effect s p s' (.finished (.ok file))

section Effect

variable {settings : Settings} {x : Mishaps} {s s' : Session Memory} {p' : Progress}

theorem effect_asked {u : Update}
    (h : Progress.step (Memory.unreliable x) settings s (.asked u) = (s', p')) :
    Progress.Effect s (.asked u) s' p' := by
  have hb := u.begun (c := Memory.unreliable x) (s := s) settings
  simp only [Progress.step] at h
  generalize u.begin (Memory.unreliable x) settings s = r at hb h
  cases hb with
  | refused r =>
    cases h
    exact .ended _ rfl rfl (Or.inl rfl)
  | notFound cause row =>
    cases h
    obtain rfl := Memory.outside_of_lookUp row
    exact .ended _ rfl rfl (Or.inl rfl)
  | failed stage cause row names =>
    cases h
    have ho := Memory.outside_of_lookUp row
    exact .ended _ (by rw [ho]; rfl) (by rw [ho]; rfl) (Or.inl names)
  | crafted job row names =>
    cases h
    have ho := Memory.outside_of_lookUp row
    have hrow := Memory.find?_of_lookUp row
    have hid := Roster.id_of_find? hrow
    exact .read _ (by rw [hid]; exact hrow) (by rw [ho]; rfl) (by rw [ho]; rfl) names

theorem effect_crafted {job : Commission}
    (h : Progress.step (Memory.unreliable x) settings s (.crafted job) = (s', p')) :
    Progress.Effect s (.crafted job) s' p' := by
  cases hf : x.faults.store with
  | some cause =>
    cases hl : x.leftover with
    | none =>
      simp only [Progress.step, store, Memory.unreliable, hf, hl, Memory.store] at h
      cases h
      exact .ended _ rfl rfl (Or.inr rfl)
    | some rest =>
      simp only [Progress.step, store, Memory.unreliable, hf, hl, Memory.store] at h
      cases h
      exact .spoiled _ job rest rfl rfl rfl
  | none =>
    simp only [Progress.step, store, Memory.unreliable, hf, Memory.store] at h
    cases h
    exact .stored _ _ rfl rfl rfl rfl rfl

theorem effect_stored {job : Commission} {file : String}
    (h : Progress.step (Memory.unreliable x) settings s (.stored job file) = (s', p')) :
    Progress.Effect s (.stored job file) s' p' := by
  cases hf : x.faults.record with
  | some cause =>
    simp only [Progress.step, Memory.unreliable, Memory.collaborators, hf, Memory.record] at h
    cases h
    exact .ended _ rfl rfl (Or.inl rfl)
  | none =>
    simp only [Progress.step, Memory.unreliable, Memory.collaborators, hf, Memory.record] at h
    cases hrow : (s.outside.called (.record job.owner.id file)).roster.find? job.owner.id with
    | none =>
      rw [hrow] at h
      cases h
      exact .ended _ rfl rfl (Or.inl rfl)
    | some row =>
      rw [hrow] at h
      cases h
      exact .recorded _ _ rfl rfl rfl rfl

/-- A removal leaves the files as they were, or without the one at the path. -/
theorem remove_unreliable (m : Memory) (p : String) :
    ((Memory.unreliable x).remove m p).1.roster = m.roster ∧
      (((Memory.unreliable x).remove m p).1.files = m.files ∨
        ((Memory.unreliable x).remove m p).1.files = Memory.without m.files p) := by
  have hremove : (Memory.remove x.faults.remove m p).1 = m.called (.remove p) ∨
      Memory.remove x.faults.remove m p =
        ({ m.called (.remove p) with files := Memory.without m.files p }, none) := by
    unfold Memory.remove
    cases x.faults.remove with
    | some cause => exact Or.inl rfl
    | none =>
      dsimp only
      split
      · exact Or.inr rfl
      · exact Or.inl rfl
  simp only [Memory.unreliable]
  rcases hr : Memory.remove x.faults.remove m p with ⟨m', cause⟩
  rw [hr] at hremove
  rcases hremove with rfl | hremove
  · cases cause with
    | none => exact ⟨rfl, Or.inl rfl⟩
    | some cause =>
      cases x.gone with
      | false => exact ⟨rfl, Or.inl rfl⟩
      | true => exact ⟨rfl, Or.inr rfl⟩
  · cases hremove
    exact ⟨rfl, Or.inr rfl⟩

theorem removeOld_eq {σ : Type} (c : Collaborators σ) (s : Session σ) (file : String) :
    (removeOld c s file).outside = (c.remove s.outside (path file)).1 ∧
      (removeOld c s file).names = s.names := by
  unfold removeOld
  rcases c.remove s.outside (path file) with ⟨outside, _ | cause⟩ <;> exact ⟨rfl, rfl⟩

theorem effect_recorded {job : Commission} {file : String}
    (h : Progress.step (Memory.unreliable x) settings s (.recorded job file) = (s', p')) :
    Progress.Effect s (.recorded job file) s' p' := by
  simp only [Progress.step] at h
  split at h
  · cases h
    exact .ended _ rfl rfl (Or.inl rfl)
  rename_i had
  cases h
  obtain ⟨houtside, hnames⟩ := removeOld_eq (Memory.unreliable x) s job.owner.avatar
  obtain ⟨hroster, hfiles⟩ := remove_unreliable (x := x) s.outside (path job.owner.avatar)
  rw [← houtside] at hroster hfiles
  rcases hfiles with hfiles | hfiles
  · exact .ended _ hroster hfiles (Or.inl hnames)
  · exact .removed _ _ rfl had hroster hfiles hnames

/-- **Every step has one of the effects.** -/
theorem effect_step {p : Progress}
    (h : p.step (Memory.unreliable x) settings s = (s', p')) : p.Effect s s' p' := by
  cases p with
  | asked u => exact effect_asked h
  | crafted job => exact effect_crafted h
  | stored job file => exact effect_stored h
  | recorded job file => exact effect_recorded h
  | finished result =>
    cases h
    exact .ended _ rfl rfl (Or.inl rfl)

end Effect

/-! ## The invariant -/

/-- Every avatar that a row names is stored. -/
def LiveAvatars (m : Memory) : Prop :=
  ∀ r ∈ m.roster.members, r.avatar ≠ "" → m.hasFile (path r.avatar) = true

/-- No two members share an avatar. -/
def DistinctAvatars (r : Roster) : Prop :=
  ∀ a ∈ r.members, ∀ b ∈ r.members, a.avatar ≠ "" → a.avatar = b.avatar → a.id = b.id

namespace Traffic

/-- The names that are in use: those of rows and files, and those that updates remember. -/
def Uses (t : Traffic) (name : String) : Prop :=
  (∃ r ∈ t.session.outside.roster.members, r.avatar = name) ∨
    ∃ (i : Nat) (p : Progress), t.updates[i]? = some p ∧
      ((∃ o, p.owner? = some o ∧ o.avatar = name) ∨ p.waiting? = some name)

/-- What holds at any moment. `stop` bounds the number of names that are ever drawn. -/
structure Inv (stop : Nat) (t : Traffic) : Prop where
  live : LiveAvatars t.session.outside
  distinct : DistinctAvatars t.session.outside.roster
  fresh : Fresh t.session.names stop t.Uses
  /-- A file that waits is stored. -/
  waits : ∀ (i : Nat) (p : Progress) (file : String), t.updates[i]? = some p →
    p.waiting? = some file → t.session.outside.hasFile (path file) = true
  /-- No row names a file that waits. -/
  unnamed : ∀ (i : Nat) (p : Progress) (file : String), t.updates[i]? = some p →
    p.waiting? = some file → ∀ r ∈ t.session.outside.roster.members, r.avatar ≠ file
  /-- No two updates wait with the same file. -/
  alone : ∀ (i j : Nat) (p q : Progress) (file : String), t.updates[i]? = some p →
    t.updates[j]? = some q → p.waiting? = some file → q.waiting? = some file → i = j
  /-- A row that was read did not name a file that waits. -/
  earlier : ∀ (i j : Nat) (p q : Progress) (o : Member) (file : String), t.updates[i]? = some p →
    t.updates[j]? = some q → p.owner? = some o → q.waiting? = some file → o.avatar ≠ file
  /-- A file named by a row that was read is named by no other row, and once the update has recorded
  its new file, by none at all. -/
  own : ∀ (i : Nat) (p : Progress) (o : Member), t.updates[i]? = some p → p.owner? = some o →
    o.avatar ≠ "" → ∀ r ∈ t.session.outside.roster.members, r.avatar = o.avatar →
      r.id = o.id ∧ p.isRecorded = false

variable {stop k : Nat} {s s' : Session Memory} {us us' : List Progress} {job : Commission}
  {file : String}

theorem getElem?_set_cases {p q : Progress} {i : Nat} (h : (us.set k p)[i]? = some q) :
    us[i]? = some q ∧ k ≠ i ∨ k = i ∧ q = p := by
  rw [List.getElem?_set] at h
  split at h
  · rename_i hk
    split at h
    · exact Or.inr ⟨hk, (Option.some.inj h).symm⟩
    · cases h
  · rename_i hk
    exact Or.inl ⟨h, hk⟩

/-- Updates may forget, and files that nobody waits for and no row names may go. -/
theorem Inv.forget (h : Inv stop ⟨s, us⟩) (roster : s'.outside.roster = s.outside.roster)
    (names : s'.names = s.names ∨ s'.names = s.names.next.2)
    (files : ∀ name, (∃ r ∈ s.outside.roster.members, r.avatar = name ∧ name ≠ "") ∨
      (∃ (i : Nat) (p : Progress), us[i]? = some p ∧ p.waiting? = some name) →
      s.outside.hasFile (path name) = true → s'.outside.hasFile (path name) = true)
    (updates : ∀ (i : Nat) (q : Progress), us'[i]? = some q →
      us[i]? = some q ∨ q.owner? = none ∧ q.waiting? = none) : Inv stop ⟨s', us'⟩ := by
  have hw : ∀ (i : Nat) (q : Progress) (f : String), us'[i]? = some q → q.waiting? = some f →
      us[i]? = some q := by
    intro i q f hq hf
    rcases updates i q hq with hq | ⟨-, hn⟩
    · exact hq
    · rw [hn] at hf
      cases hf
  have ho : ∀ (i : Nat) (q : Progress) (o : Member), us'[i]? = some q → q.owner? = some o →
      us[i]? = some q := by
    intro i q o hq hf
    rcases updates i q hq with hq | ⟨hn, -⟩
    · exact hq
    · rw [hn] at hf
      cases hf
  have huses : ∀ f, Uses ⟨s', us'⟩ f → Uses ⟨s, us⟩ f := by
    rintro f (⟨r, hr, hf⟩ | ⟨i, p, hp, ⟨o, hpo, hf⟩ | hf⟩)
    · exact Or.inl ⟨r, roster ▸ hr, hf⟩
    · exact Or.inr ⟨i, p, ho i p o hp hpo, Or.inl ⟨o, hpo, hf⟩⟩
    · exact Or.inr ⟨i, p, hw i p f hp hf, Or.inr hf⟩
  constructor
  case live =>
    intro r hr hne
    have hr' : r ∈ s.outside.roster.members := roster ▸ hr
    exact files r.avatar (Or.inl ⟨r, hr', rfl, hne⟩) (h.live r hr' hne)
  case distinct =>
    intro a ha b hb
    exact h.distinct a (roster ▸ ha) b (roster ▸ hb)
  case fresh =>
    rcases names with hn | hn <;> simp only [hn]
    · exact h.fresh.mono huses
    · exact h.fresh.next.mono fun f hf => Or.inl (huses f hf)
  case waits =>
    intro i p f hp hf
    have hp' := hw i p f hp hf
    exact files f (Or.inr ⟨i, p, hp', hf⟩) (h.waits i p f hp' hf)
  case unnamed =>
    intro i p f hp hf r hr
    exact h.unnamed i p f (hw i p f hp hf) hf r (roster ▸ hr)
  case alone =>
    intro i j p q f hp hq hpf hqf
    exact h.alone i j p q f (hw i p f hp hpf) (hw j q f hq hqf) hpf hqf
  case earlier =>
    intro i j p q o f hp hq hpo hqf
    exact h.earlier i j p q o f (ho i p o hp hpo) (hw j q f hq hqf) hpo hqf
  case own =>
    intro i p o hp hpo hne r hr
    exact h.own i p o (ho i p o hp hpo) hpo hne r (roster ▸ hr)

/-- An update reads a row. -/
theorem Inv.read (h : Inv stop ⟨s, us⟩)
    (row : s.outside.roster.find? job.owner.id = some job.owner)
    (roster : s'.outside.roster = s.outside.roster) (files : s'.outside.files = s.outside.files)
    (names : s'.names = s.names) : Inv stop ⟨s', us.set k (.crafted job)⟩ := by
  have hrow : job.owner ∈ s.outside.roster.members := Roster.mem_of_find? row
  have hw : ∀ (i : Nat) (q : Progress) (f : String), (us.set k (.crafted job))[i]? = some q →
      q.waiting? = some f → us[i]? = some q := by
    intro i q f hq hf
    rcases getElem?_set_cases hq with ⟨hq, -⟩ | ⟨-, rfl⟩
    · exact hq
    · cases hf
  constructor
  case live =>
    intro r hr hne
    rw [Memory.hasFile_congr files]
    exact h.live r (roster ▸ hr) hne
  case distinct =>
    intro a ha b hb
    exact h.distinct a (roster ▸ ha) b (roster ▸ hb)
  case fresh =>
    simp only [names]
    refine h.fresh.mono ?_
    rintro f (⟨r, hr, hf⟩ | ⟨i, p, hp, ⟨o, hpo, hf⟩ | hf⟩)
    · exact Or.inl ⟨r, roster ▸ hr, hf⟩
    · rcases getElem?_set_cases hp with ⟨hp, -⟩ | ⟨-, rfl⟩
      · exact Or.inr ⟨i, p, hp, Or.inl ⟨o, hpo, hf⟩⟩
      · cases hpo
        exact Or.inl ⟨_, hrow, hf⟩
    · exact Or.inr ⟨i, p, hw i p f hp hf, Or.inr hf⟩
  case waits =>
    intro i p f hp hf
    rw [Memory.hasFile_congr files]
    exact h.waits i p f (hw i p f hp hf) hf
  case unnamed =>
    intro i p f hp hf r hr
    exact h.unnamed i p f (hw i p f hp hf) hf r (roster ▸ hr)
  case alone =>
    intro i j p q f hp hq hpf hqf
    exact h.alone i j p q f (hw i p f hp hpf) (hw j q f hq hqf) hpf hqf
  case earlier =>
    intro i j p q o f hp hq hpo hqf
    have hq := hw j q f hq hqf
    rcases getElem?_set_cases hp with ⟨hp, -⟩ | ⟨-, rfl⟩
    · exact h.earlier i j p q o f hp hq hpo hqf
    · cases hpo
      exact h.unnamed j q f hq hqf _ hrow
  case own =>
    intro i p o hp hpo hne r hr he
    have hr : r ∈ s.outside.roster.members := roster ▸ hr
    rcases getElem?_set_cases hp with ⟨hp, -⟩ | ⟨-, rfl⟩
    · exact h.own i p o hp hpo hne r hr he
    · cases hpo
      exact ⟨h.distinct r hr _ hrow (by rw [he]; exact hne) he, rfl⟩

/-- A file that is stored takes the place of none but the one at its path. -/
theorem hasFile_of_stored {m m' : Memory} {p q : String} {art : Artwork}
    (files : m'.files = Memory.without m.files q ++ [(q, art)]) (hp : m.hasFile p = true) :
    m'.hasFile p = true := by
  obtain ⟨kept, hk⟩ := Memory.hasFile_iff.1 hp
  rw [Memory.hasFile_iff, files]
  by_cases he : p = q
  · exact ⟨art, by simp [he]⟩
  · exact ⟨kept, List.mem_append_left _ (Memory.mem_without.2 ⟨hk, he⟩)⟩

/-- An update stores its artwork under the next name. -/
theorem Inv.stored (h : Inv stop ⟨s, us⟩) (before : us[k]? = some (.crafted job))
    (drawn : file = fileName s.names.next.1 job.art)
    (roster : s'.outside.roster = s.outside.roster)
    (files : s'.outside.files =
      Memory.without s.outside.files (path file) ++ [(path file, job.art)])
    (names : s'.names = s.names.next.2) (hstop : s'.names.drawn ≤ stop) :
    Inv stop ⟨s', us.set k (.stored job file)⟩ := by
  have hnew : ¬ Uses ⟨s, us⟩ file := by
    rw [drawn]
    rw [names] at hstop
    exact h.fresh.unused s.names.drawn (Nat.le_refl _) hstop job.art
  have hkept : ∀ p, s.outside.hasFile p = true → s'.outside.hasFile p = true :=
    fun p hp => hasFile_of_stored files hp
  -- The new progress remembers the same row as before, and waits.
  have ho : ∀ (i : Nat) (q : Progress) (o : Member), (us.set k (.stored job file))[i]? = some q →
      q.owner? = some o → ∃ p, us[i]? = some p ∧ p.owner? = some o ∧
        (p.isRecorded = false → q.isRecorded = false) := by
    intro i q o hq hqo
    rcases getElem?_set_cases hq with ⟨hq, -⟩ | ⟨rfl, rfl⟩
    · exact ⟨q, hq, hqo, id⟩
    · exact ⟨_, before, hqo, fun _ => rfl⟩
  have hw : ∀ (i : Nat) (q : Progress) (f : String), (us.set k (.stored job file))[i]? = some q →
      q.waiting? = some f → us[i]? = some q ∧ k ≠ i ∨ k = i ∧ f = file := by
    intro i q f hq hqf
    rcases getElem?_set_cases hq with hq | ⟨hk, rfl⟩
    · exact Or.inl hq
    · exact Or.inr ⟨hk, (Option.some.inj hqf).symm⟩
  have huses : ∀ f, Uses ⟨s', us.set k (.stored job file)⟩ f →
      Uses ⟨s, us⟩ f ∨ ∃ art, f = fileName s.names.next.1 art := by
    rintro f (⟨r, hr, hf⟩ | ⟨i, q, hq, ⟨o, hqo, hf⟩ | hf⟩)
    · exact Or.inl (Or.inl ⟨r, roster ▸ hr, hf⟩)
    · obtain ⟨p, hp, hpo, -⟩ := ho i q o hq hqo
      exact Or.inl (Or.inr ⟨i, p, hp, Or.inl ⟨o, hpo, hf⟩⟩)
    · rcases hw i q f hq hf with ⟨hq, -⟩ | ⟨-, rfl⟩
      · exact Or.inl (Or.inr ⟨i, q, hq, Or.inr hf⟩)
      · exact Or.inr ⟨job.art, drawn⟩
  constructor
  case live =>
    intro r hr hne
    exact hkept _ (h.live r (roster ▸ hr) hne)
  case distinct =>
    intro a ha b hb
    exact h.distinct a (roster ▸ ha) b (roster ▸ hb)
  case fresh =>
    simp only [names]
    exact h.fresh.next.mono huses
  case waits =>
    intro i q f hq hf
    rcases hw i q f hq hf with ⟨hq, -⟩ | ⟨-, rfl⟩
    · exact hkept _ (h.waits i q f hq hf)
    · rw [Memory.hasFile_iff, files]
      exact ⟨job.art, by simp⟩
  case unnamed =>
    intro i q f hq hf r hr
    rcases hw i q f hq hf with ⟨hq, -⟩ | ⟨-, rfl⟩
    · exact h.unnamed i q f hq hf r (roster ▸ hr)
    · exact fun he => hnew (Or.inl ⟨r, roster ▸ hr, he⟩)
  case alone =>
    intro i j p q f hp hq hpf hqf
    rcases hw i p f hp hpf with ⟨hp', -⟩ | ⟨hi, hf⟩ <;>
      rcases hw j q f hq hqf with ⟨hq', -⟩ | ⟨hj, hf'⟩
    · exact h.alone i j p q f hp' hq' hpf hqf
    · exact absurd (Or.inr ⟨i, p, hp', Or.inr (hf' ▸ hpf)⟩) hnew
    · exact absurd (Or.inr ⟨j, q, hq', Or.inr (hf ▸ hqf)⟩) hnew
    · exact hi.symm.trans hj
  case earlier =>
    intro i j p q o f hp hq hpo hqf
    obtain ⟨p', hp', hpo', -⟩ := ho i p o hp hpo
    rcases hw j q f hq hqf with ⟨hq', -⟩ | ⟨-, hf⟩
    · exact h.earlier i j p' q o f hp' hq' hpo' hqf
    · exact fun he => hnew (Or.inr ⟨i, p', hp', Or.inl ⟨o, hpo', he.trans hf⟩⟩)
  case own =>
    intro i q o hq hqo hne r hr he
    obtain ⟨p, hp, hpo, hrec⟩ := ho i q o hq hqo
    obtain ⟨hid, hp'⟩ := h.own i p o hp hpo hne r (roster ▸ hr) he
    exact ⟨hid, hrec hp'⟩

/-- An update lets the row name the file that waits. -/
theorem Inv.recorded (h : Inv stop ⟨s, us⟩) (before : us[k]? = some (.stored job file))
    (roster : s'.outside.roster = s.outside.roster.setAvatar job.owner.id file)
    (files : s'.outside.files = s.outside.files) (names : s'.names = s.names) :
    Inv stop ⟨s', us.set k (.recorded job file)⟩ := by
  have hrows : ∀ r ∈ s'.outside.roster.members, r.id = job.owner.id ∧ r.avatar = file ∨
      r.id ≠ job.owner.id ∧ r ∈ s.outside.roster.members := by
    intro r hr
    rw [roster] at hr
    exact Roster.mem_setAvatar hr
  -- The update itself waits no more; all others are where they were.
  have hw : ∀ (i : Nat) (q : Progress) (f : String), (us.set k (.recorded job file))[i]? = some q →
      q.waiting? = some f → us[i]? = some q ∧ k ≠ i := by
    intro i q f hq hqf
    rcases getElem?_set_cases hq with hq | ⟨-, rfl⟩
    · exact hq
    · cases hqf
  have ho : ∀ (i : Nat) (q : Progress) (o : Member), (us.set k (.recorded job file))[i]? = some q →
      q.owner? = some o → ∃ p, us[i]? = some p ∧ p.owner? = some o ∧
        (q.isRecorded = p.isRecorded ∨ o = job.owner) := by
    intro i q o hq hqo
    rcases getElem?_set_cases hq with ⟨hq, -⟩ | ⟨rfl, rfl⟩
    · exact ⟨q, hq, hqo, Or.inl rfl⟩
    · exact ⟨_, before, hqo, Or.inr (Option.some.inj hqo).symm⟩
  have huses : ∀ f, Uses ⟨s', us.set k (.recorded job file)⟩ f → Uses ⟨s, us⟩ f := by
    rintro f (⟨r, hr, hf⟩ | ⟨i, q, hq, ⟨o, hqo, hf⟩ | hf⟩)
    · rcases hrows r hr with ⟨-, ha⟩ | ⟨-, hr⟩
      · exact Or.inr ⟨k, _, before, Or.inr (by rw [← hf, ha]; rfl)⟩
      · exact Or.inl ⟨r, hr, hf⟩
    · obtain ⟨p, hp, hpo, -⟩ := ho i q o hq hqo
      exact Or.inr ⟨i, p, hp, Or.inl ⟨o, hpo, hf⟩⟩
    · exact Or.inr ⟨i, q, (hw i q f hq hf).1, Or.inr hf⟩
  constructor
  case live =>
    intro r hr hne
    rw [Memory.hasFile_congr files]
    rcases hrows r hr with ⟨-, ha⟩ | ⟨-, hr⟩
    · rw [ha]
      exact h.waits k _ file before rfl
    · exact h.live r hr hne
  case distinct =>
    intro a ha b hb hne he
    rcases hrows a ha with ⟨hai, haf⟩ | ⟨-, ha⟩ <;> rcases hrows b hb with ⟨hbi, hbf⟩ | ⟨-, hb⟩
    · exact hai.trans hbi.symm
    · exact absurd (he.symm.trans haf) (h.unnamed k _ file before rfl b hb)
    · exact absurd (he.trans hbf) (h.unnamed k _ file before rfl a ha)
    · exact h.distinct a ha b hb hne he
  case fresh =>
    simp only [names]
    exact h.fresh.mono huses
  case waits =>
    intro i q f hq hf
    rw [Memory.hasFile_congr files]
    exact h.waits i q f (hw i q f hq hf).1 hf
  case unnamed =>
    intro i q f hq hf r hr
    obtain ⟨hq, hki⟩ := hw i q f hq hf
    rcases hrows r hr with ⟨-, ha⟩ | ⟨-, hr⟩
    · intro he
      exact hki (h.alone k i _ q file before hq rfl (by rw [hf, ← he, ha]))
    · exact h.unnamed i q f hq hf r hr
  case alone =>
    intro i j p q f hp hq hpf hqf
    exact h.alone i j p q f (hw i p f hp hpf).1 (hw j q f hq hqf).1 hpf hqf
  case earlier =>
    intro i j p q o f hp hq hpo hqf
    obtain ⟨p, hp, hpo, -⟩ := ho i p o hp hpo
    exact h.earlier i j p q o f hp (hw j q f hq hqf).1 hpo hqf
  case own =>
    intro i q o hq hqo hne r hr he
    obtain ⟨p, hp, hpo, hrec⟩ := ho i q o hq hqo
    rcases hrows r hr with ⟨-, ha⟩ | ⟨hid, hr⟩
    · exact absurd (he.symm.trans ha) (h.earlier i k p _ o file hp before hpo rfl)
    · obtain ⟨hro, hp'⟩ := h.own i p o hp hpo hne r hr he
      rcases hrec with hrec | rfl
      · exact ⟨hro, hrec.trans hp'⟩
      · exact absurd hro hid

/-- A member changes the name. -/
theorem Inv.rename (h : Inv stop ⟨s, us⟩) (id : Int) (name : String) :
    Inv stop ⟨Avatar.rename s id name, us⟩ := by
  have hrows : ∀ r ∈ (Avatar.rename s id name).outside.roster.members,
      ∃ b ∈ s.outside.roster.members, r.id = b.id ∧ r.avatar = b.avatar :=
    fun r hr => Roster.mem_setName hr
  constructor
  case live =>
    intro r hr hne
    obtain ⟨b, hb, -, ha⟩ := hrows r hr
    rw [ha] at hne ⊢
    exact h.live b hb hne
  case distinct =>
    intro a ha b hb hne he
    obtain ⟨a', ha, hai, haa⟩ := hrows a ha
    obtain ⟨b', hb, hbi, hba⟩ := hrows b hb
    rw [hai, hbi]
    exact h.distinct a' ha b' hb (haa ▸ hne) (haa ▸ hba ▸ he)
  case fresh =>
    refine h.fresh.mono ?_
    rintro f (⟨r, hr, hf⟩ | hf)
    · obtain ⟨b, hb, -, ha⟩ := hrows r hr
      exact Or.inl ⟨b, hb, ha ▸ hf⟩
    · exact Or.inr hf
  case waits => exact h.waits
  case unnamed =>
    intro i p f hp hf r hr
    obtain ⟨b, hb, -, ha⟩ := hrows r hr
    rw [ha]
    exact h.unnamed i p f hp hf b hb
  case alone => exact h.alone
  case earlier => exact h.earlier
  case own =>
    intro i p o hp hpo hne r hr he
    obtain ⟨b, hb, hid, ha⟩ := hrows r hr
    rw [hid]
    exact h.own i p o hp hpo hne b hb (ha ▸ he)

/-- One more update is asked for. -/
theorem Inv.ask (h : Inv stop ⟨s, us⟩) (u : Update) : Inv stop ⟨s, us ++ [.asked u]⟩ := by
  refine h.forget rfl (Or.inl rfl) (fun _ _ hf => hf) fun i q hq => ?_
  rw [List.getElem?_append] at hq
  split at hq
  · exact Or.inl hq
  · rw [List.getElem?_singleton] at hq
    split at hq
    · cases hq
      exact Or.inr ⟨rfl, rfl⟩
    · cases hq

/-- Every effect of a step keeps the invariant. -/
theorem Inv.effect {p p' : Progress} (h : Inv stop ⟨s, us⟩) (hp : us[k]? = some p)
    (he : p.Effect s s' p') (hstop : s'.names.drawn ≤ stop) : Inv stop ⟨s', us.set k p'⟩ := by
  have hover : ∀ (result : Except SaveError String) (i : Nat) (q : Progress),
      (us.set k (.finished result))[i]? = some q →
      us[i]? = some q ∨ q.owner? = none ∧ q.waiting? = none := by
    intro result i q hq
    rcases getElem?_set_cases hq with ⟨hq, -⟩ | ⟨-, rfl⟩
    · exact Or.inl hq
    · exact Or.inr ⟨rfl, rfl⟩
  cases he with
  | ended result roster files names =>
    exact h.forget roster names (fun f _ hf => by rw [Memory.hasFile_congr files]; exact hf)
      (hover result)
  | spoiled result job rest roster files names =>
    exact h.forget roster (Or.inr names) (fun f _ hf => hasFile_of_stored files hf) (hover result)
  | read job row roster files names => exact h.read row roster files names
  | stored job file before drawn roster files names =>
    exact h.stored (before ▸ hp) drawn roster files names hstop
  | recorded job file before roster files names =>
    exact h.recorded (before ▸ hp) roster files names
  | removed job file before had roster files names =>
    subst before
    refine h.forget roster (Or.inl names) (fun f hf hfile => ?_) (hover _)
    -- The file that goes is neither named by a row nor waited for.
    have hne : f ≠ job.owner.avatar := by
      rcases hf with ⟨r, hr, rfl, -⟩ | ⟨i, q, hq, hqf⟩
      · intro he
        exact Bool.noConfusion (h.own k _ job.owner hp rfl had r hr he).2
      · exact (h.earlier k i _ q job.owner f hp hq rfl hqf).symm
    obtain ⟨art, ha⟩ := Memory.hasFile_iff.1 hfile
    rw [Memory.hasFile_iff, files]
    exact ⟨art, Memory.mem_without.2 ⟨ha, fun he => hne (path_inj.1 he)⟩⟩

/-! ## Runs -/

variable {settings : Settings}

theorem drawn_le_of_effect {p p' : Progress} (h : p.Effect s s' p') :
    s.names.drawn ≤ s'.names.drawn := by
  have hsame (hn : s'.names = s.names) : s.names.drawn ≤ s'.names.drawn :=
    Nat.le_of_eq (by rw [hn])
  have hnext (hn : s'.names = s.names.next.2) : s.names.drawn ≤ s'.names.drawn := by
    rw [hn]
    exact Nat.le_succ _
  cases h with
  | ended result roster files names => exact names.elim hsame hnext
  | spoiled result job rest roster files names => exact hnext names
  | read job row roster files names => exact hsame names
  | stored job file before drawn roster files names => exact hnext names
  | recorded job file before roster files names => exact hsame names
  | removed job file before had roster files names => exact hsame names

theorem drawn_le_turn (t : Traffic) (x : Turn) :
    t.session.names.drawn ≤ (t.turn settings x).session.names.drawn := by
  cases x with
  | ask u => exact Nat.le_refl _
  | rename id name => exact Nat.le_refl _
  | advance i mishaps =>
    simp only [turn]
    split
    · exact Nat.le_refl _
    · exact drawn_le_of_effect (effect_step rfl)

theorem drawn_le_run (t : Traffic) (turns : List Turn) :
    t.session.names.drawn ≤ (t.run settings turns).session.names.drawn := by
  induction turns generalizing t with
  | nil => exact Nat.le_refl _
  | cons x rest ih => exact Nat.le_trans (drawn_le_turn t x) (ih (t.turn settings x))

theorem Inv.turn {t : Traffic} {x : Turn} (h : Inv stop t)
    (hstop : (t.turn settings x).session.names.drawn ≤ stop) : Inv stop (t.turn settings x) := by
  cases x with
  | ask u => exact h.ask u
  | rename id name => exact h.rename id name
  | advance i mishaps =>
    simp only [Traffic.turn] at hstop ⊢
    split
    · exact h
    · rename_i p hp
      simp only [hp] at hstop
      exact h.effect hp (effect_step rfl) hstop

theorem Inv.run {t : Traffic} {turns : List Turn} (h : Inv stop t)
    (hstop : (t.run settings turns).session.names.drawn ≤ stop) :
    Inv stop (t.run settings turns) := by
  induction turns generalizing t with
  | nil => exact h
  | cons x rest ih =>
    exact ih (h.turn (Nat.le_trans (drawn_le_run (t.turn settings x) rest) hstop)) hstop

theorem Inv.start {s : Session Memory} (live : LiveAvatars s.outside)
    (distinct : DistinctAvatars s.outside.roster) (fresh : Fresh s.names stop s.outside.Uses) :
    Inv stop ⟨s, []⟩ := by
  constructor
  case live => exact live
  case distinct => exact distinct
  case fresh =>
    refine fresh.mono ?_
    rintro f (hr | ⟨i, p, hp, -⟩)
    · exact Or.inl hr
    · cases hp
  case waits => intro i p f hp; cases hp
  case unnamed => intro i p f hp; cases hp
  case alone => intro i j p q f hp; cases hp
  case earlier => intro i j p q o f hp; cases hp
  case own => intro i p o hp; cases hp

/-- **No avatar in use is ever lost.** At the start every avatar that a row names is stored, no two
members share one, and the names drawn up to the end of the run are new. Then every avatar that a
row names is stored after any turns: steps of any updates in any order, with any mishaps. -/
theorem run_keeps_avatars (settings : Settings) (start : Session Memory) (turns : List Turn)
    (live : LiveAvatars start.outside) (distinct : DistinctAvatars start.outside.roster)
    (fresh : Fresh start.names
      (run settings ⟨start, []⟩ turns).session.names.drawn start.outside.Uses) :
    LiveAvatars (run settings ⟨start, []⟩ turns).session.outside :=
  (Inv.run (Inv.start live distinct fresh) (Nat.le_refl _)).live

/-- One member has an avatar, another has none. -/
def twoMembers : Session Memory where
  outside :=
    { roster := ⟨[{ id := 1, name := "ada", avatar := "old.gif" }, { id := 2, name := "bob" }]⟩
      files := [("avatars/old.gif", .bytes [])] }
  names := { number := id }
  draws := {}

/-- Two updates for one member that read the same row, and a new name between their last steps, of
which one fails after it has removed the file. -/
def crossing : List Turn :=
  [.ask (.letter 1), .ask (.letter 1), .advance 0 {}, .advance 1 {}, .advance 0 {}, .advance 1 {},
    .advance 0 {}, .advance 1 {}, .advance 0 {}, .rename 1 "eve",
    .advance 1 { faults := { remove := some .emptyPicture }, gone := true }]

theorem crossing_keeps_avatars :
    LiveAvatars twoMembers.outside ∧ DistinctAvatars twoMembers.outside.roster ∧
      Fresh twoMembers.names 2 twoMembers.outside.Uses ∧
      LiveAvatars (run { secretKey := "" } ⟨twoMembers, []⟩ crossing).session.outside := by
  have live : LiveAvatars twoMembers.outside := by
    simp [LiveAvatars, twoMembers, Memory.hasFile, path, folder]
  have distinct : DistinctAvatars twoMembers.outside.roster := by
    simp [DistinctAvatars, twoMembers]
  have fresh : Fresh twoMembers.names 2 twoMembers.outside.Uses := by
    constructor
    · intro i j _ hij hj
      obtain rfl : i = 0 := by omega
      obtain rfl : j = 1 := by omega
      decide
    · rintro i - - art (⟨r, hr, hf⟩ | hf)
      · have hlen := length_fileName (twoMembers.names.number i) art
        rw [← hf] at hlen
        simp only [twoMembers, List.mem_cons, List.not_mem_nil, or_false] at hr
        rcases hr with rfl | rfl <;> exact absurd hlen (by decide)
      · obtain ⟨a, ha⟩ := Memory.hasFile_iff.1 hf
        have hlen := length_fileName (twoMembers.names.number i) art
        have hold : path (fileName (twoMembers.names.number i) art) = path "old.gif" := by
          simp only [twoMembers, List.mem_singleton, Prod.mk.injEq] at ha
          exact ha.1
        rw [path_inj.1 hold] at hlen
        exact absurd hlen (by decide)
  have hdrawn : (run { secretKey := "" } ⟨twoMembers, []⟩ crossing).session.names.drawn = 2 := rfl
  exact ⟨live, distinct, fresh, run_keeps_avatars _ _ _ live distinct (by rw [hdrawn]; exact fresh)⟩

end Traffic

end Portrait.Avatar
