import Portrait.Proofs.Json.Depth
import Portrait.Proofs.Storage.Tree
import Portrait.Proofs.Web.Admission
import Portrait.Proofs.Web.Routing

/-!
# What requests do

Everything that an update, a task and a request can end with. Results about requests are case analyses
of these, and need not look at the handlers again.

* `Ended`, `ended` — what an update can end with: nothing was stored, or nothing was recorded, or the
  row of the member names a new file.
* `Deed`, `deed` — what a task of a known caller can end with.
* `exists_deed` — an errand is turned away before anything is done, or a task is done for its sender.
* `desk_respond`, `status_respond`, `content_respond` — how replies are told.
* `callMeAda` — a request with which results about names can be tried out.
-/

set_option autoImplicit false

namespace Portrait.Web

open Avatar (Artwork Cause Commission Event SaveError Stage Tile Update fileName path)

/-! ## Updates -/

section Updates

variable {settings : Settings} {d d' : Desk} {id : Int} {u : Update}

theorem holds_of_store {s s' : Site} {file : String} {art : Artwork}
    (h : Site.collaborators.store s file art = (s', none)) : s'.files.Holds file art := by
  replace h : s.store file art = (s', none) := h
  rcases hsave : s.files.save file art with ⟨files, e⟩
  rw [Site.store, hsave] at h
  obtain ⟨rfl, he⟩ := Prod.mk.inj h
  rw [Option.map_eq_none_iff] at he
  subst he
  exact Storage.Local.holds_of_save hsave

/-- A file was recorded for its member, or nothing was. -/
theorem eq_of_record {s s' : Site} {file : String} {cause : Option Cause}
    (h : Site.collaborators.record s id file = (s', cause)) :
    (∃ c, cause = some c ∧ s' = s) ∨
      cause = none ∧ s' = { s with roster := s.roster.setAvatar id file } := by
  replace h : s.record id file = (s', cause) := h
  unfold Site.record Avatar.Records.setAvatar at h
  cases hrow : Avatar.Records.lookUp s.roster id with
  | error c =>
    rw [hrow] at h
    obtain ⟨rfl, rfl⟩ := Prod.mk.inj h
    exact .inl ⟨c, rfl, rfl⟩
  | ok m =>
    rw [hrow] at h
    obtain ⟨rfl, rfl⟩ := Prod.mk.inj h
    exact .inr ⟨rfl, rfl⟩

/-- Storing an artwork fails, or there is a new file with it. -/
theorem stored_of_store {art : Artwork} {result : Except SaveError String}
    (h : Avatar.store Site.collaborators d art = (d', result)) :
    (∃ stage cause, result = .error (.failed stage cause)) ∨
      ∃ number, result = .ok (fileName number art) ∧
        d'.outside.files.Holds (path (fileName number art)) art := by
  simp only [Avatar.store] at h
  split at h
  · obtain ⟨-, rfl⟩ := Prod.mk.inj h
    exact .inl ⟨_, _, rfl⟩
  · rename_i hstore
    obtain ⟨rfl, rfl⟩ := Prod.mk.inj h
    exact .inr ⟨_, rfl, holds_of_store hstore⟩

/-- The row of a member cannot be made to name a file, or it names it. -/
theorem replaced_of_replace {owner : Member} {file : String} {e : Option SaveError}
    (h : Avatar.replace Site.collaborators d owner file = (d', e)) :
    (∃ stage cause, e = some (.failed stage cause) ∧
      d'.outside.roster = d.outside.roster) ∨
    e = none ∧ d'.outside.roster = d.outside.roster.setAvatar owner.id file ∧
      (owner.avatar = "" → d'.outside.files = d.outside.files) := by
  simp only [Avatar.replace] at h
  split at h
  · rename_i hrecord
    obtain ⟨rfl, rfl⟩ := Prod.mk.inj h
    rcases eq_of_record hrecord with ⟨c, -, rfl⟩ | ⟨hcause, -⟩
    · exact .inl ⟨_, _, rfl, rfl⟩
    · cases hcause
  · rename_i outside hrecord
    obtain ⟨rfl, rfl⟩ := Prod.mk.inj h
    rcases eq_of_record hrecord with ⟨c, hcause, -⟩ | ⟨-, rfl⟩
    · cases hcause
    refine .inr ⟨rfl, ?_, ?_⟩
    · split
      · rfl
      · rw [roster_removeOld]
    · intro hempty
      rw [if_pos hempty]

/-- Publishing an artwork fails and changes no row, or the row of its member names the new file. -/
theorem published_of_publish {job : Commission} {result : Except SaveError String}
    (h : Avatar.publish Site.collaborators d job = (d', result)) :
    (∃ stage cause, result = .error (.failed stage cause) ∧
      d'.outside.roster = d.outside.roster) ∨
    ∃ number, result = .ok (fileName number job.art) ∧
      d'.outside.roster = d.outside.roster.setAvatar job.owner.id (fileName number job.art) ∧
      (job.owner.avatar = "" → d'.outside.files.Holds (path (fileName number job.art)) job.art) := by
  rcases hstore : Avatar.store Site.collaborators d job.art with ⟨d₁, e | file⟩
  · simp only [Avatar.publish, hstore] at h
    obtain ⟨rfl, rfl⟩ := Prod.mk.inj h
    rcases stored_of_store hstore with ⟨stage, cause, he⟩ | ⟨number, he, -⟩
    · cases he
      exact .inl ⟨stage, cause, rfl, roster_of_store hstore⟩
    · cases he
  · have hroster := roster_of_store hstore
    rcases stored_of_store hstore with ⟨stage, cause, hfile⟩ | ⟨number, hfile, hholds⟩
    · cases hfile
    obtain rfl : file = fileName number job.art := Except.ok.inj hfile
    rcases hreplace : Avatar.replace Site.collaborators d₁ job.owner (fileName number job.art) with
      ⟨d₂, e⟩
    simp only [Avatar.publish, hstore, hreplace] at h
    rcases replaced_of_replace hreplace with ⟨stage, cause, rfl, hsame⟩ | ⟨rfl, hset, hfiles⟩
    · obtain ⟨rfl, rfl⟩ := Prod.mk.inj h
      exact .inl ⟨stage, cause, rfl, hsame.trans hroster⟩
    · obtain ⟨rfl, rfl⟩ := Prod.mk.inj h
      refine .inr ⟨number, rfl, ?_, ?_⟩
      · rw [← hroster]
        exact hset
      · intro hempty
        have hkept := hfiles hempty
        exact hkept ▸ hholds

/-- What an update can end with. Only uploads are refused, and letters become tiles. -/
inductive Ended (d : Desk) (u : Update) : Desk × Except SaveError String → Prop where
  | refused (r : Refusal) (upload : ∀ id, u ≠ .letter id) : Ended d u (d, .error (.refused r))
  | notFound (cause : Cause) (row : Avatar.Records.lookUp d.outside.roster u.member = .error cause) :
      Ended d u (d, .error (.notFound cause))
  | failed {d' : Desk} (stage : Stage) (cause : Cause)
      (roster : d'.outside.roster = d.outside.roster) : Ended d u (d', .error (.failed stage cause))
  | saved {d' : Desk} {owner : Member} (number : Nat) (art : Artwork)
      (row : Avatar.Records.lookUp d.outside.roster u.member = .ok owner)
      (roster : d'.outside.roster = d.outside.roster.setAvatar u.member (fileName number art))
      (stored : owner.avatar = "" → d'.outside.files.Holds (path (fileName number art)) art)
      (tile : ∀ id, u = .letter id → ∃ t, art = .tile t) : Ended d u (d', .ok (fileName number art))

theorem letter_not_refused {r : Refusal} :
    (Update.letter id).begin Site.collaborators settings d ≠ (d', .error (.refused r)) := by
  intro h
  simp only [Update.begin, Avatar.craftLetter] at h
  split at h
  · cases h
  · split at h <;> cases h

/-- The artwork for a letter is a tile. -/
theorem tile_of_letter {job : Commission}
    (h : (Update.letter id).begin Site.collaborators settings d = (d', .ok job)) :
    ∃ t, job.art = .tile t := by
  simp only [Update.begin, Avatar.craftLetter] at h
  split at h
  · cases h
  · rename_i owner _
    split at h
    · cases h
    · rename_i art hart
      cases h
      simp only [Artwork.ofName] at hart
      split at hart
      · cases hart
      · cases hart
        exact ⟨_, rfl⟩

theorem ended {result : Except SaveError String}
    (h : u.perform Site.collaborators settings d = (d', result)) : Ended d u (d', result) := by
  have hbegun := u.begun (c := Site.collaborators) (s := d) settings
  rw [Avatar.perform_eq_begin] at h
  generalize hfirst : u.begin Site.collaborators settings d = first at hbegun h
  cases hbegun with
  | refused r =>
    cases h
    refine .refused r ?_
    rintro id rfl
    exact letter_not_refused hfirst
  | notFound cause row =>
    obtain ⟨rfl, hrow⟩ := Site.of_lookUp row
    cases h
    exact .notFound cause hrow
  | failed stage cause row names =>
    obtain ⟨houtside, -⟩ := Site.of_lookUp row
    cases h
    refine .failed stage cause ?_
    rw [houtside]
  | @crafted d₁ job row names =>
    obtain ⟨houtside, hrow⟩ := Site.of_lookUp row
    have hid : job.owner.id = u.member := Roster.id_of_find? (find?_of_lookUp hrow)
    rcases published_of_publish h with ⟨stage, cause, rfl, hroster⟩ | ⟨number, rfl, hroster, hholds⟩
    · refine .failed stage cause ?_
      rw [hroster, houtside]
    · refine .saved number job.art hrow ?_ hholds ?_
      · rw [hroster, houtside, hid]
      · rintro id rfl
        exact tile_of_letter hfirst

end Updates

/-! ## Tasks -/

/-- The member whose avatar or name a task is about. -/
def Task.subject (caller : Member) : Task → Int
  | .upload member _ => member.getD caller.id
  | .set member _ => member
  | _ => caller.id

/-- The state after a member got another name. -/
def rename (d : Desk) (id : Int) (name : String) : Desk :=
  { d with outside := { d.outside with roster := d.outside.roster.setName id name } }

/-- What a task can end with. -/
inductive Deed (settings : Settings) (d : Desk) (caller : Member) : Task → Handled → Prop where
  /-- Nothing was done. -/
  | turnedAway {task : Task} (e : Rejection) : Deed settings d caller task (d, .error e)
  /-- A new avatar could not be recorded. -/
  | failed {task : Task} {d' : Desk} (roster : d'.outside.roster = d.outside.roster) :
      Deed settings d caller task (d', .error .serverError)
  | saved {task : Task} {d' : Desk} {owner : Member} (number : Nat) (art : Artwork)
      (other : ∀ name, task ≠ .setName name)
      (row : Avatar.Records.lookUp d.outside.roster (task.subject caller) = .ok owner)
      (roster : d'.outside.roster =
        d.outside.roster.setAvatar (task.subject caller) (fileName number art)) :
      Deed settings d caller task (d', .ok (newAvatar d' (task.subject caller) (fileName number art)))
  | shown : Deed settings d caller .profile (d, .ok (.profile caller (d.outside.url caller.avatar)))
  /-- The new name was kept, although the row could not be shown. -/
  | unshown {name : String} (long : maxFileName < caller.avatar.length) :
      Deed settings d caller (.setName name) (rename d caller.id name, .error .crash)
  | renamed {name : String} (avatar : caller.avatar ≠ "") :
      Deed settings d caller (.setName name) (rename d caller.id name,
        .ok (.profile { caller with name := name } (d.outside.url caller.avatar)))
  /-- The new name was kept, although there was no letter avatar for it. -/
  | unlettered {name : String} {d₁ d' : Desk} (stage : Stage) (cause : Cause)
      (avatar : caller.avatar = "")
      (failure : Avatar.generate Site.collaborators (rename d caller.id name) settings caller.id =
        (d₁, .error (.failed stage cause)))
      (roster : d'.outside.roster = d.outside.roster.setName caller.id name) :
      Deed settings d caller (.setName name) (d', .ok (.profile { caller with name := name } ""))
  | lettered {name : String} {d' : Desk} (number : Nat) (t : Tile) (avatar : caller.avatar = "")
      (roster : d'.outside.roster = (d.outside.roster.setName caller.id name).setAvatar caller.id
        (fileName number (.tile t)))
      (stored : d'.outside.files.Holds (path (fileName number (.tile t))) (.tile t)) :
      Deed settings d caller (.setName name)
        (d', .ok (.profile { caller with name := name, avatar := fileName number (.tile t) }
          (d'.outside.url (fileName number (.tile t)))))

section Tasks

variable {settings : Settings} {d d' : Desk} {caller : Member} {reply : Except Rejection Answer}

theorem lookUp_setName {roster : Roster} {m : Member} (name : String)
    (h : Avatar.Records.lookUp roster m.id = .ok m) :
    Avatar.Records.lookUp (roster.setName m.id name) m.id = .ok { m with name := name } := by
  have hfind := Roster.find?_setName_self name (find?_of_lookUp h)
  unfold Avatar.Records.lookUp at h ⊢
  split at h
  · rename_i hholds
    rw [if_pos hholds, hfind]
  · cases h

theorem deed_of_saveAvatar {task : Task} {data : Bytes} (hother : ∀ name, task ≠ .setName name)
    (h : saveAvatar settings d (task.subject caller) data = (d', reply)) :
    Deed settings d caller task (d', reply) := by
  rcases hsave : Avatar.save Site.collaborators d settings (task.subject caller) data with
    ⟨d₁, result⟩
  have hended := ended (u := .upload (task.subject caller) data) hsave
  rw [saveAvatar, hsave] at h
  cases hended with
  | refused r upload =>
    cases h
    exact .turnedAway _
  | notFound cause row =>
    cases cause <;> cases h <;> exact .turnedAway _
  | failed stage cause roster =>
    cases h
    exact .failed roster
  | saved number art row roster stored tile =>
    cases h
    exact .saved number art hother row roster

theorem deed_of_generateAvatar (h : generateAvatar settings d caller = (d', reply)) :
    Deed settings d caller .generate (d', reply) := by
  rcases hgenerate : Avatar.generate Site.collaborators d settings caller.id with ⟨d₁, result⟩
  have hended := ended (u := .letter caller.id) hgenerate
  rw [generateAvatar, hgenerate] at h
  cases hended with
  | refused r upload => exact absurd rfl (upload caller.id)
  | notFound cause row =>
    cases h
    exact .turnedAway _
  | failed stage cause roster =>
    cases h
    exact .failed roster
  | saved number art row roster stored tile =>
    cases h
    have hother : ∀ name, Task.generate ≠ .setName name := by simp
    exact @Deed.saved settings d caller .generate _ _ number art hother row roster

theorem showProfile_eq_ok {m : Member} {answer : Answer} (h : showProfile d m = .ok answer) :
    answer = .profile m (d.outside.url m.avatar) := by
  unfold showProfile at h
  split at h
  · exact (Except.ok.inj h).symm
  · cases h

theorem showProfile_eq_error {m : Member} {e : Rejection} (h : showProfile d m = .error e) :
    e = .crash ∧ (m.name.length ≤ Form.maxNameLength → maxFileName < m.avatar.length) := by
  unfold showProfile at h
  split at h
  · cases h
  · rename_i hshown
    simp only [isPresentable, Bool.and_eq_true, decide_eq_true_eq, not_and, Nat.not_le] at hshown
    exact ⟨(Except.error.inj h).symm, hshown⟩

theorem deed_of_setName {name : String}
    (hrow : Avatar.Records.lookUp d.outside.roster caller.id = .ok caller)
    (hname : name.length ≤ Form.maxNameLength)
    (h : setName settings d caller name = (d', reply)) :
    Deed settings d caller (.setName name) (d', reply) := by
  have hthere := lookUp_setName name hrow
  simp only [setName] at h
  split at h
  · rename_i e hshow
    obtain ⟨rfl, hlong⟩ := showProfile_eq_error hshow
    cases h
    exact .unshown (hlong hname)
  rename_i answer hshow
  obtain rfl := showProfile_eq_ok hshow
  split at h
  · rename_i havatar
    cases h
    exact .renamed havatar
  rename_i havatar
  rw [ne_eq, Classical.not_not] at havatar
  rcases hgenerate : Avatar.generate Site.collaborators (rename d caller.id name) settings caller.id
    with ⟨d₁, result⟩
  have hended := ended (u := .letter caller.id) hgenerate
  have hunfolded := hgenerate
  unfold rename at hunfolded
  rw [hunfolded] at h
  cases hended with
  | refused r upload => exact absurd rfl (upload caller.id)
  | notFound cause row => cases hthere.symm.trans row
  | failed stage cause roster =>
    have hurl : (rename d caller.id name).outside.url caller.avatar = "" := if_pos havatar
    cases h
    change Deed settings d caller (.setName name)
      (_, .ok (.profile _ ((rename d caller.id name).outside.url caller.avatar)))
    rw [hurl]
    exact .unlettered stage cause havatar hgenerate roster
  | saved number art row roster stored tile =>
    obtain ⟨t, rfl⟩ := tile caller.id rfl
    obtain rfl := Except.ok.inj (hthere.symm.trans row)
    cases h
    exact .lettered number t havatar roster (stored havatar)

theorem deed_of_saveChecked (task : Task) {data : Except Rejection Bytes}
    (hother : ∀ name, task ≠ .setName name)
    (h : saveChecked settings d caller (task.subject caller) data = (d', reply)) :
    Deed settings d caller task (d', reply) := by
  unfold saveChecked at h
  split at h
  · split at h
    · cases h
      exact .turnedAway _
    · exact deed_of_saveAvatar hother h
  · cases h
    exact .turnedAway _

/-- Everything that a task can do. -/
theorem deed {task : Task}
    (hrow : Avatar.Records.lookUp d.outside.roster caller.id = .ok caller)
    (hname : ∀ name, task = .setName name → name.length ≤ Form.maxNameLength)
    (h : perform settings d caller task = (d', reply)) : Deed settings d caller task (d', reply) := by
  cases task with
  | profile =>
    replace h : (d, showProfile d caller) = (d', reply) := h
    unfold showProfile at h
    split at h
    · cases h
      exact .shown
    · cases h
      exact .turnedAway _
  | setName name => exact deed_of_setName hrow (hname name rfl) h
  | generate => exact deed_of_generateAvatar h
  | upload member data => exact deed_of_saveChecked (.upload member data) nofun h
  | set member text => exact deed_of_saveChecked (.set member text) nofun h

end Tasks

/-! ## Errands -/

/-- A request gives a text under a name. -/
def Request.Gives (r : Request) (name text : String) : Prop :=
  ∃ members codes, r.sent = .ok (.value (.object members)) ∧
    (Json.object members).get? (CodePoints.ofString name) = some (.text codes) ∧
    codes.toString? = some text

/-- What an errand is understood as, once all that was sent is in order. -/
inductive Understood (r : Request) : Errand → Task → Prop where
  | profile : Understood r .profile .profile
  | setName {text : String} (given : r.Gives "name" text)
      (short : text.length ≤ Form.maxNameLength) : Understood r .setName (.setName (Text.strip text))
  | generateOwn : Understood r .generateOwn .generate
  | uploadOwn (data : Bytes) : Understood r .uploadOwn (.upload none data)
  | uploadFor {member : String} {id : Int} (data : Bytes) (number : Request.memberIn member = .ok id) :
      Understood r (.uploadFor member) (.upload (some id) data)
  | setFor {member : String} {id : Int} (text : String) (number : Request.memberIn member = .ok id) :
      Understood r (.setFor member) (.set id text)

section Errands

variable {settings : Settings} {now : Int} {r : Request} {d : Desk} {e : Errand} {task : Task}

theorem length_strip_le (s : String) : (Text.strip s).length ≤ s.length := by
  have htrim : ∀ (p : Char → Bool) (cs : List Char), (Text.trim p cs).length ≤ cs.length := by
    intro p cs
    rw [Text.trim, List.length_reverse]
    have hback := (List.dropWhile_suffix p (l := (cs.dropWhile p).reverse)).length_le
    have hfront := (List.dropWhile_suffix p (l := cs)).length_le
    rw [List.length_reverse] at hback
    omega
  rw [Text.strip, String.length_ofList, ← String.length_toList]
  exact htrim _ s.toList

theorem checkName_eq_ok {text name : String} (h : Form.checkName text = .ok name) :
    name = Text.strip text ∧ text.length ≤ Form.maxNameLength := by
  unfold Form.checkName at h
  split at h
  · cases h
  split at h
  · cases h
  rename_i hshort
  split at h
  · cases h
  · exact ⟨(Except.ok.inj h).symm, Nat.not_lt.1 hshort⟩

theorem readMember_eq_ok {shape : Problem} {name s : String} {check : String → Except Problem String}
    {j : Json} (h : Form.readMember shape name check j = .ok s) :
    ∃ members codes text, j = .object members ∧
      j.get? (CodePoints.ofString name) = some (.text codes) ∧ codes.toString? = some text ∧
      check text = .ok s := by
  unfold Form.readMember at h
  split at h
  · rename_i members
    split at h
    · cases h
    rename_i value hget
    split at h
    · cases h
    rename_i text hread
    split at h
    · cases h
    rename_i checked hcheck
    obtain rfl := Except.ok.inj h
    unfold Form.readText at hread
    split at hread
    · rename_i codes
      split at hread
      · rename_i text' htext
        obtain rfl := Except.ok.inj hread
        exact ⟨members, codes, text', rfl, hget, htext, hcheck⟩
      · cases hread
    · cases hread
  · cases h

theorem read_eq_ok {sent : Request.Sent} {form : Problem → Json → Except Complaint String} {s : String}
    (h : sent.read form = .ok s) : ∃ j, sent = .value j ∧ form .notFields j = .ok s := by
  cases sent with
  | nothing => cases h
  | other => cases h
  | value j =>
    refine ⟨j, rfl, ?_⟩
    simp only [Request.Sent.read] at h
    split at h
    · cases h
    · rename_i hform
      rw [hform, h]

theorem single_eq_ok {α : Type} {a : Except Complaint α} {x : α} (h : single a = .ok x) : a = .ok x := by
  cases a with
  | error c => cases h
  | ok y => exact congrArg Except.ok (Except.ok.inj h)

theorem both_eq_ok {α β : Type} {a : Except Complaint α} {b : Except Complaint β} {x : α × β}
    (h : both a b = .ok x) : a = .ok x.1 ∧ b = .ok x.2 := by
  cases a <;> cases b <;> cases h
  exact ⟨rfl, rfl⟩

theorem understood (h : readTask r e = .ok (.ok task)) : Understood r e task := by
  cases e with
  | profile =>
    cases h
    exact .profile
  | generateOwn =>
    cases h
    exact .generateOwn
  | setName =>
    obtain ⟨sent, hsent, htask⟩ := map_eq_ok h
    obtain ⟨name, hname, rfl⟩ := map_eq_ok htask
    obtain ⟨j, rfl, hread⟩ := read_eq_ok (single_eq_ok hname)
    obtain ⟨members, codes, text, rfl, hget, htext, hcheck⟩ := readMember_eq_ok hread
    obtain ⟨rfl, hshort⟩ := checkName_eq_ok hcheck
    exact .setName ⟨members, codes, hsent, hget, htext⟩ hshort
  | uploadOwn =>
    obtain ⟨fs, -, htask⟩ := map_eq_ok h
    obtain ⟨data, -, rfl⟩ := map_eq_ok htask
    exact .uploadOwn data
  | uploadFor member =>
    obtain ⟨fs, -, htask⟩ := map_eq_ok h
    obtain ⟨⟨id, data⟩, hboth, rfl⟩ := map_eq_ok htask
    exact .uploadFor data (both_eq_ok hboth).1
  | setFor member =>
    obtain ⟨sent, -, htask⟩ := map_eq_ok h
    obtain ⟨⟨id, text⟩, hboth, rfl⟩ := map_eq_ok htask
    exact .setFor text (both_eq_ok hboth).1

/-- An errand is turned away before anything is done, or something is done for the member who sent
it. -/
theorem exists_deed (settings : Settings) (now : Int) (d : Desk) (r : Request) (e : Errand) :
    (∃ rejection, (runErrand settings now d r e).desk = d ∧
      (runErrand settings now d r e).reply = .error rejection) ∨
    ∃ caller task, SentBy settings now d.outside.roster r caller ∧ Understood r e task ∧
      Deed settings d caller task ((runErrand settings now d r e).desk,
        (runErrand settings now d r e).reply) := by
  cases hread : readTask r e with
  | error rejection =>
    left
    exact ⟨rejection, by simp only [runErrand, hread], by simp only [runErrand, hread]⟩
  | ok read =>
    cases hcaller : authenticate (.ofSettings settings) now d.outside.roster r with
    | error rejection =>
      left
      exact ⟨rejection, by simp only [runErrand, hread, hcaller],
        by simp only [runErrand, hread, hcaller]⟩
    | ok caller =>
      cases read with
      | error rejection =>
        left
        exact ⟨rejection, by simp only [runErrand, hread, hcaller],
          by simp only [runErrand, hread, hcaller]⟩
      | ok task =>
        right
        have hunderstood := understood hread
        refine ⟨caller, task, sentBy_of_authenticate hcaller, hunderstood, ?_⟩
        simp only [runErrand, hread, hcaller]
        apply deed (lookUp_of_authenticate hcaller) _ rfl
        rintro name rfl
        cases hunderstood with
        | @setName text given short => exact Nat.le_trans (length_strip_le text) short

end Errands

/-! ## Requests -/

section Requests

variable {settings : Settings} {now : Int} {r : Request} {d : Desk}

/-- The state when a request has got its name. -/
def named (d : Desk) (r : Request) : Desk := { d with names := (nameRequest d.names r).2 }

theorem not_preflight (h : r.method ≠ "OPTIONS") : isPreflight r = false := by
  simp [isPreflight, h]

/-- A question of a browser changes nothing outside. -/
theorem outside_respond_of_preflight (h : isPreflight r = true) :
    (respond settings now d r).desk.outside = d.outside := by
  simp only [respond, h, if_true]

theorem desk_respond (h : isPreflight r = false) :
    (respond settings now d r).desk = (exchange settings now (named d r) r).desk := by
  simp only [respond, h, Bool.false_eq_true, if_false]
  rfl

theorem status_lt_of_answer (a : Answer) : a.status < 400 := by
  cases a with
  | moved => decide
  | _ => exact (by decide : 200 < 400)

theorem status_forMethod (response : Response) (method : String) :
    (response.forMethod method).status = response.status := by
  unfold Response.forMethod
  split <;> rfl

theorem status_respond (h : isPreflight r = false) :
    (respond settings now d r).response.status =
      (Response.ofReply (exchange settings now (named d r) r).reply).status := by
  simp only [respond, h, Bool.false_eq_true, if_false, status_forMethod, named]
  generalize exchange settings now _ r = x
  split
  · rename_i hreply
    rw [hreply]
    rfl
  · rfl

/-- What is said for a reply. -/
def said : Except Rejection Answer → Content
  | .error .crash => Response.crash.content
  | reply => (Response.ofReply reply).content

/-- All that is said is said to all methods but `HEAD`. -/
theorem content_respond (h : isPreflight r = false) (hmethod : r.method ≠ "HEAD") :
    (respond settings now d r).response.content =
      said (exchange settings now (named d r) r).reply := by
  simp only [respond, h, Bool.false_eq_true, if_false, Response.forMethod, hmethod, named]
  generalize exchange settings now _ r = x
  split
  · rename_i hreply
    rw [hreply]
    rfl
  · rename_i hreply
    unfold said
    split
    · rename_i hcrash
      exact absurd hcrash hreply
    · rfl

end Requests

/-! ## A new name -/

/-- The request of a member to be named Ada. -/
def callMeAda (headers : List (String × String)) : Request where
  method := "PUT"
  path := "/api/v1/users/me/name"
  headers := headers
  body := .value (.ofMembers [("name", .ofString "Ada")])

theorem route_callMeAda :
    route "/api/v1" "PUT" "/api/v1/users/me/name" = .found (.errand .setName) := by
  have hpath : withoutLineEnd "/api/v1/users/me/name" = "/api/v1/users/me/name" := by decide
  simp only [route, hits, routes, Route.accept?, hpath, splitOn_slash]
  decide

theorem exchange_callMeAda (d : Desk) (headers : List (String × String)) :
    exchange guestSettings 0 d (callMeAda headers) =
      runErrand guestSettings 0 d (callMeAda headers) .setName := by
  have hroute : route guestSettings.routePrefix (callMeAda headers).method (callMeAda headers).path =
      .found (.errand .setName) := route_callMeAda
  rw [exchange, hroute]
  rfl

theorem readTask_callMeAda (headers : List (String × String))
    (h : (callMeAda headers).header? "content-type" = none) :
    readTask (callMeAda headers) .setName = .ok (.ok (.setName "Ada")) := by
  rw [readTask, sent_of_value rfl h]
  rfl

end Portrait.Web
