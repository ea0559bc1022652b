import Portrait.Proofs.Avatar.Progress
import Portrait.Proofs.Roster
import Portrait.Web.Response

/-!
# Who may change what

Whatever is sent, and to whatever path: something changes only for a caller whose token is good and
whose row is there and not blocked, and then in one row only, which is the caller's own unless the
caller is an admin. Names are changed by their owners alone; numbers, rights and moments of joining
are never changed, and rows neither come nor go.

* `edited_of_update`, `edited_of_perform` — what updates and tasks do to the table.
* `Untouched` — nothing was stored, removed or recorded.
* `SentBy` — a request is that of a member who is not blocked.
* `Permitted` — a request left everything untouched, or edited what its sender may edit.

Main statements: `respond_permitted` for one request, `run_permitted` for any number of them.
-/

set_option autoImplicit false

namespace Portrait.Web

/-! ## Updates -/

section Updates

open Avatar (Artwork Cause Commission SaveError Update)

variable {settings : Settings} {d d' : Desk} {caller id : Int}

namespace Site

variable {s s' : Site} {path : String} {cause : Option Cause}

theorem of_lookUp {row : Except Cause Member} (h : collaborators.lookUp s id = (s', row)) :
    s' = s ∧ Avatar.Records.lookUp s.roster id = row := by
  obtain ⟨rfl, rfl⟩ := Prod.mk.inj h
  exact ⟨rfl, rfl⟩

theorem roster_of_store {art : Artwork} (h : collaborators.store s path art = (s', cause)) :
    s'.roster = s.roster := by
  obtain ⟨rfl, -⟩ := Prod.mk.inj h
  rfl

theorem roster_of_remove (h : collaborators.remove s path = (s', cause)) :
    s'.roster = s.roster := by
  obtain ⟨rfl, -⟩ := Prod.mk.inj h
  rfl

/-- Recording a file edits the row of its member. -/
theorem edited_of_record {file : String} (h : collaborators.record s id file = (s', cause)) :
    s.roster.Edited caller id s'.roster := by
  replace h : s.record id file = (s', cause) := h
  unfold record at h
  split at h
  · obtain ⟨rfl, -⟩ := Prod.mk.inj h
    exact .refl s.roster
  · rename_i roster hset
    obtain ⟨rfl, -⟩ := Prod.mk.inj h
    unfold Avatar.Records.setAvatar at hset
    split at hset
    · cases hset
    · cases hset
      exact Roster.edited_setAvatar file

end Site

theorem find?_of_lookUp {r : Roster} {m : Member} (h : Avatar.Records.lookUp r id = .ok m) :
    r.find? id = some m := by
  unfold Avatar.Records.lookUp at h
  split at h
  · split at h
    · cases h
    · rename_i hfind
      cases h
      exact hfind
  · cases h

theorem roster_of_store {art : Artwork} {result : Except SaveError String}
    (h : Avatar.store Site.collaborators d art = (d', result)) :
    d'.outside.roster = d.outside.roster := by
  simp only [Avatar.store] at h
  split at h
  · rename_i hstore
    obtain ⟨rfl, -⟩ := Prod.mk.inj h
    exact Site.roster_of_store hstore
  · rename_i hstore
    obtain ⟨rfl, -⟩ := Prod.mk.inj h
    exact Site.roster_of_store hstore

theorem roster_removeOld (d : Desk) (file : String) :
    (Avatar.removeOld Site.collaborators d file).outside.roster = d.outside.roster := by
  simp only [Avatar.removeOld]
  split
  · rename_i hremove
    exact Site.roster_of_remove hremove
  · rename_i hremove
    exact Site.roster_of_remove hremove

theorem edited_of_replace {owner : Member} {file : String} {e : Option SaveError}
    (h : Avatar.replace Site.collaborators d owner file = (d', e)) :
    d.outside.roster.Edited caller owner.id d'.outside.roster := by
  simp only [Avatar.replace] at h
  split at h
  · rename_i hrecord
    obtain ⟨rfl, -⟩ := Prod.mk.inj h
    exact Site.edited_of_record hrecord
  · rename_i outside hrecord
    have hedited : d.outside.roster.Edited caller owner.id outside.roster :=
      Site.edited_of_record hrecord
    obtain ⟨rfl, -⟩ := Prod.mk.inj h
    split
    · exact hedited
    · rw [roster_removeOld]
      exact hedited

theorem edited_of_publish {job : Commission} {result : Except SaveError String}
    (h : Avatar.publish Site.collaborators d job = (d', result)) :
    d.outside.roster.Edited caller job.owner.id d'.outside.roster := by
  simp only [Avatar.publish] at h
  split at h
  · rename_i d₁ e hstore
    obtain ⟨rfl, -⟩ := Prod.mk.inj h
    rw [roster_of_store hstore]
    exact .refl d.outside.roster
  · rename_i d₁ file hstore
    rw [← roster_of_store hstore]
    split at h
    · rename_i hreplace
      obtain ⟨rfl, -⟩ := Prod.mk.inj h
      exact edited_of_replace hreplace
    · rename_i d₂ hreplace
      have hedited : d₁.outside.roster.Edited caller job.owner.id d₂.outside.roster :=
        edited_of_replace hreplace
      obtain ⟨rfl, -⟩ := Prod.mk.inj h
      exact hedited

/-- An update edits the row of its member, whoever asks for it. -/
theorem edited_of_update {u : Update} {result : Except SaveError String}
    (h : u.perform Site.collaborators settings d = (d', result)) :
    d.outside.roster.Edited caller u.member d'.outside.roster := by
  have hbegun := u.begun (c := Site.collaborators) (s := d) settings
  rw [Avatar.perform_eq_begin] at h
  generalize u.begin Site.collaborators settings d = first at hbegun h
  cases hbegun with
  | refused r =>
    cases h
    exact .refl d.outside.roster
  | notFound cause row =>
    obtain ⟨rfl, -⟩ := Site.of_lookUp row
    cases h
    exact .refl d.outside.roster
  | failed stage cause row names =>
    obtain ⟨houtside, -⟩ := Site.of_lookUp row
    cases h
    rw [houtside]
    exact .refl d.outside.roster
  | crafted job row names =>
    obtain ⟨houtside, hrow⟩ := Site.of_lookUp row
    have hid : job.owner.id = u.member := Roster.id_of_find? (find?_of_lookUp hrow)
    rw [← houtside, ← hid]
    exact edited_of_publish h

end Updates

/-! ## Handlers -/

section Handlers

variable {settings : Settings} {d d' : Desk} {caller : Member} {id : Int}
  {reply : Except Rejection Answer}

theorem edited_of_saveAvatar {editor : Int} {data : Bytes}
    (h : saveAvatar settings d id data = (d', reply)) :
    d.outside.roster.Edited editor id d'.outside.roster := by
  rcases hsave : Avatar.save Site.collaborators d settings id data with ⟨d₁, result⟩
  have hedited : d.outside.roster.Edited editor id d₁.outside.roster :=
    edited_of_update (u := .upload id data) hsave
  simp only [saveAvatar, hsave] at h
  split at h <;> cases h <;> rename_i hresult <;> cases hresult <;> exact hedited

theorem edited_of_generateAvatar (h : generateAvatar settings d caller = (d', reply)) :
    d.outside.roster.Edited caller.id caller.id d'.outside.roster := by
  rcases hgenerate : Avatar.generate Site.collaborators d settings caller.id with ⟨d₁, result⟩
  have hedited : d.outside.roster.Edited caller.id caller.id d₁.outside.roster :=
    edited_of_update (u := .letter caller.id) hgenerate
  simp only [generateAvatar, hgenerate] at h
  split at h <;> cases h <;> rename_i hresult <;> cases hresult <;> exact hedited

theorem edited_of_setName {name : String} (h : setName settings d caller name = (d', reply)) :
    d.outside.roster.Edited caller.id caller.id d'.outside.roster := by
  have hname : d.outside.roster.Edited caller.id caller.id
      (d.outside.roster.setName caller.id name) := Roster.edited_setName name
  simp only [setName] at h
  split at h
  · cases h
    exact hname
  · split at h
    · cases h
      exact hname
    · split at h <;> rename_i hgenerate <;> cases h <;>
        exact hname.trans (edited_of_update (u := .letter caller.id) hgenerate)

theorem mayEdit_iff : mayEdit caller id = true ↔ id = caller.id ∨ caller.isAdmin = true := by
  rw [mayEdit, Bool.or_eq_true, decide_eq_true_eq, eq_comm]

/-- A picture is saved for those only whose avatars the caller may change. -/
theorem edited_of_saveChecked {data : Except Rejection Bytes}
    (h : saveChecked settings d caller id data = (d', reply)) :
    d' = d ∨ mayEdit caller id = true ∧ d.outside.roster.Edited caller.id id d'.outside.roster := by
  unfold saveChecked at h
  split at h
  · rename_i hmay
    split at h
    · cases h
      exact .inl rfl
    · exact .inr ⟨hmay, edited_of_saveAvatar h⟩
  · cases h
    exact .inl rfl

/-- Every task leaves all as it is, or edits the row of a member whom the caller may edit. -/
theorem edited_of_perform {task : Task} (h : perform settings d caller task = (d', reply)) :
    d' = d ∨ ∃ target, mayEdit caller target = true ∧
      d.outside.roster.Edited caller.id target d'.outside.roster := by
  have hown : mayEdit caller caller.id = true := by simp [mayEdit]
  cases task with
  | profile =>
    cases h
    exact .inl rfl
  | setName name => exact .inr ⟨caller.id, hown, edited_of_setName h⟩
  | generate => exact .inr ⟨caller.id, hown, edited_of_generateAvatar h⟩
  | upload member data => exact (edited_of_saveChecked h).imp_right fun hedited => ⟨_, hedited⟩
  | set member text => exact (edited_of_saveChecked h).imp_right fun hedited => ⟨_, hedited⟩

end Handlers

/-! ## Requests -/

/-- Nothing was recorded, stored or removed. Files that are stored or removed are logged. -/
structure Untouched (d d' : Desk) : Prop where
  outside : d'.outside = d.outside
  draws : d'.draws = d.draws
  log : d'.log = d.log

/-- A request shows that a member who is not blocked has sent it. -/
structure SentBy (settings : Settings) (now : Int) (roster : Roster) (r : Request)
    (caller : Member) : Prop where
  token : ∃ token, r.token? = some token ∧
    Token.verify (.ofSettings settings) now token r.nesting = .ok (some caller.id)
  row : roster.find? caller.id = some caller
  free : caller.isBlocked = false

/-- A request left all as it was, or it edited the row of one member: that of the member who has
sent it, or any if that is an admin. -/
def Permitted (settings : Settings) (now : Int) (r : Request) (d d' : Desk) : Prop :=
  Untouched d d' ∨ ∃ caller target, SentBy settings now d.outside.roster r caller ∧
    (target = caller.id ∨ caller.isAdmin = true) ∧
    d.outside.roster.Edited caller.id target d'.outside.roster

section Requests

variable {settings : Settings} {now : Int} {r : Request} {d d' : Desk} {caller : Member}

theorem Untouched.refl (d : Desk) : Untouched d d := ⟨rfl, rfl, rfl⟩

theorem sentBy_of_authenticate {roster : Roster}
    (h : authenticate (.ofSettings settings) now roster r = .ok caller) :
    SentBy settings now roster r caller := by
  unfold authenticate at h
  split at h
  · cases h
  rename_i token htoken
  split at h
  · cases h
  · cases h
  rename_i id hverify
  unfold callerRow at h
  split at h
  · split at h
    · cases h
    · rename_i m hrow
      split at h
      · cases h
      · rename_i hfree
        cases h
        obtain rfl := Roster.id_of_find? hrow
        exact ⟨⟨token, htoken, hverify⟩, hrow, Bool.eq_false_iff.2 hfree⟩
  · cases h

theorem runErrand_permitted (e : Errand) :
    Permitted settings now r d (runErrand settings now d r e).desk := by
  unfold runErrand
  split
  · exact .inl (.refl d)
  split
  · exact .inl (.refl d)
  rename_i caller hcaller
  split
  · exact .inl (.refl d)
  rename_i task _
  rcases hperform : perform settings d caller task with ⟨d', reply⟩
  dsimp only
  rcases edited_of_perform hperform with rfl | ⟨target, hmay, hedited⟩
  · exact .inl (.refl d')
  · exact .inr ⟨caller, target, sentBy_of_authenticate hcaller, mayEdit_iff.1 hmay, hedited⟩

theorem exchange_permitted :
    Permitted settings now r d (exchange settings now d r).desk := by
  unfold exchange
  split
  · rename_i endpoint _
    cases endpoint with
    | welcome => exact .inl (.refl d)
    | health => exact .inl (.refl d)
    | showAvatar member => exact .inl (.refl d)
    | errand e => exact runErrand_permitted e
  · exact .inl (.refl d)
  · exact .inl (.refl d)
  · exact .inl (.refl d)

/-- The name of a request makes no difference. -/
theorem Permitted.of_names {names : Uuid.Supply}
    (h : Permitted settings now r { d with names := names } d') : Permitted settings now r d d' := by
  rcases h with ⟨houtside, hdraws, hlog⟩ | hedited
  · exact .inl ⟨houtside, hdraws, hlog⟩
  · exact .inr hedited

theorem respond_permitted : Permitted settings now r d (respond settings now d r).desk := by
  simp only [respond]
  split
  · exact Permitted.of_names (.inl (.refl _))
  · exact Permitted.of_names exchange_permitted

theorem Permitted.kept (h : Permitted settings now r d d') :
    d.outside.roster.Kept d'.outside.roster := by
  rcases h with huntouched | ⟨_, _, _, _, hedited⟩
  · rw [huntouched.outside]
    exact .refl d.outside.roster
  · exact hedited.kept

end Requests

/-! ## Runs -/

/-- A request and the second in which it comes. -/
structure Visit where
  request : Request
  now : Int

/-- The state after a visit. -/
def serve (settings : Settings) (d : Desk) (v : Visit) : Desk :=
  (respond settings v.now d v.request).desk

/-- The state after some visits, one after the other. -/
def run (settings : Settings) (d : Desk) (visits : List Visit) : Desk :=
  visits.foldl (serve settings) d

/-- The state after one more visit. -/
theorem run_concat (settings : Settings) (d : Desk) (visits : List Visit) (v : Visit) :
    run settings d (visits ++ [v]) = serve settings (run settings d visits) v := by
  rw [run, List.foldl_concat]
  rfl

theorem run_kept (settings : Settings) (d : Desk) (visits : List Visit) :
    d.outside.roster.Kept (run settings d visits).outside.roster := by
  induction visits generalizing d with
  | nil => exact .refl d.outside.roster
  | cons v visits ih => exact respond_permitted.kept.trans (ih (serve settings d v))

/-- **Nobody changes what they may not change.** Whoever the members are, whatever is stored and
whatever has been sent before: a visit leaves all as it is, or it is that of a member whose token is
good at that time and who is not blocked, and it edits one row only, which is the member's own or
that of any member if an admin sent it. Only the own name can be edited, and all along the same rows
are there with the same numbers, rights and moments of joining. -/
theorem run_permitted (settings : Settings) (d : Desk) (before : List Visit) (v : Visit) :
    Permitted settings v.now v.request (run settings d before)
        (serve settings (run settings d before) v) ∧
      d.outside.roster.Kept (run settings d (before ++ [v])).outside.roster :=
  ⟨respond_permitted, run_kept settings d (before ++ [v])⟩

end Portrait.Web
