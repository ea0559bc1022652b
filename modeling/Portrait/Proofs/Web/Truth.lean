import Portrait.Proofs.Json.RoundTrip
import Portrait.Proofs.Web.Deeds

/-!
# What responses say

A response that tells of a member tells what is in the row of the member when it is sent.

* `Truthful`, `truthful_profile`, `truthful_avatar` — a value says what is in a row.
* `Deed.truthful`, `respond_truthful` — what is answered when a task or a request has been done.
* `NameTaken`, `Renamed` — what a new name does to the row of a member.

Main statement: `run_truthful`.
-/

set_option autoImplicit false

namespace Portrait.Web

open Avatar (Artwork Cause SaveError Stage Tile fileName path)

/-! ## Values that tell of a row -/

/-- What a value says of a member is what is in the row. -/
structure Truthful (s : Site) (row : Member) (j : Json) : Prop where
  id : j.get? (CodePoints.ofString "user_id") = some (.whole row.id)
  avatar : j.get? (CodePoints.ofString "avatar") = some (.ofString row.avatar)
  address : ∃ address, j.get? (CodePoints.ofString "avatar_url") = some (.ofString address) ∧
    (address = "" ↔ row.avatar = "") ∧
    (row.avatar ≠ "" → address = s.files.url ("avatars/" ++ row.avatar))
  name : ∀ name, j.get? (CodePoints.ofString "name") = some name → name = .ofString row.name

theorem url_eq_empty_iff (s : Site) (avatar : String) : s.url avatar = "" ↔ avatar = "" := by
  constructor
  · intro hurl
    by_contra havatar
    have hempty : s.files.address ++ "/" ++ path avatar = "" := (if_neg havatar).symm.trans hurl
    have hlength := congrArg String.length hempty
    rw [String.length_append, String.length_append] at hlength
    have hslash : "/".length = 1 := rfl
    have hnone : "".length = 0 := rfl
    omega
  · exact fun havatar => if_pos havatar

theorem url_of_ne_empty (s : Site) {avatar : String} (h : avatar ≠ "") :
    s.url avatar = s.files.url ("avatars/" ++ avatar) :=
  if_neg h

theorem truthful_profile (s : Site) (m : Member) :
    Truthful s m (profileValue m (s.url m.avatar)) where
  id := Json.get?_ofMembers _ _
  avatar := Json.get?_ofMembers _ _
  address := ⟨_, Json.get?_ofMembers _ _, url_eq_empty_iff s m.avatar, url_of_ne_empty s⟩
  name _ h := (Option.some.inj ((Json.get?_ofMembers _ _).symm.trans h)).symm

theorem truthful_avatar (s : Site) (m : Member) :
    Truthful s m (.ofMembers [("user_id", .whole m.id), ("avatar", .ofString m.avatar),
      ("avatar_url", .ofString (s.url m.avatar))]) where
  id := Json.get?_ofMembers _ _
  avatar := Json.get?_ofMembers _ _
  address := ⟨_, Json.get?_ofMembers _ _, url_eq_empty_iff s m.avatar, url_of_ne_empty s⟩
  name name h := by
    rw [Json.get?_ofMembers] at h
    cases h

/-- An answer tells of a row. -/
inductive Answer.Tells (s : Site) (row : Member) : Answer → Prop where
  | profile : Tells s row (.profile row (s.url row.avatar))
  | avatar : Tells s row (.avatar row.id row.avatar (s.url row.avatar))

theorem Answer.Tells.truthful {s : Site} {row : Member} {answer : Answer} (h : answer.Tells s row) :
    ∃ j, answer.content = .value j ∧ Truthful s row j := by
  cases h with
  | profile => exact ⟨_, rfl, truthful_profile s row⟩
  | avatar => exact ⟨_, rfl, truthful_avatar s row⟩

/-! ## Tasks -/

/-- What a new name does to the row of a member: it has the name, and keeps its avatar if there is
one. Otherwise it names a new tile that is stored, or still none if no tile could be made. -/
structure NameTaken (settings : Settings) (d d' : Desk) (before after : Member) : Prop where
  kept : before.avatar ≠ "" → after.avatar = before.avatar
  made : before.avatar = "" →
    (after.avatar = "" ∧ ∃ d₁ stage cause, Avatar.generate Site.collaborators
      (rename d before.id after.name) settings before.id = (d₁, .error (.failed stage cause))) ∨
    ∃ stem t, after.avatar = stem ++ ".png" ∧
      d'.outside.files.Holds (path after.avatar) (.tile t)

section Tasks

variable {settings : Settings} {d d' : Desk} {caller : Member} {task : Task} {answer : Answer}

theorem fileName_tile (number : Nat) (t : Tile) :
    fileName number (.tile t) = Uuid.text number ++ ".png" := by
  rw [fileName, String.append_assoc]
  rfl

/-- What is answered tells of the row that the task is about, as it is afterwards. -/
theorem Deed.truthful (hrow : d.outside.roster.find? caller.id = some caller)
    (h : Deed settings d caller task (d', .ok answer)) :
    ∃ row, d'.outside.roster.find? (task.subject caller) = some row ∧
      answer.Tells d'.outside row ∧
      ∀ name, task = .setName name → row.name = name ∧ NameTaken settings d d' caller row := by
  cases h with
  | shown => exact ⟨caller, hrow, .profile, nofun⟩
  | @saved _ _ owner number art other row roster =>
    have howner := (lookUp_eq_ok_iff.1 row).2
    have hid := Roster.id_of_find? howner
    refine ⟨{ owner with avatar := fileName number art }, ?_, ?_, ?_⟩
    · rw [roster]
      exact Roster.find?_setAvatar_self howner
    · rw [← hid]
      exact .avatar
    · exact fun name hname => absurd hname (other name)
  | @renamed name avatar =>
    refine ⟨{ caller with name := name }, Roster.find?_setName_self _ hrow, .profile, ?_⟩
    rintro _ ⟨⟩
    exact ⟨rfl, fun _ => rfl, fun hnone => absurd hnone avatar⟩
  | @unlettered name d₁ _ stage cause avatar failure roster =>
    have hurl : d'.outside.url caller.avatar = "" := if_pos avatar
    refine ⟨{ caller with name := name }, ?_, ?_, ?_⟩
    · rw [roster]
      exact Roster.find?_setName_self _ hrow
    · rw [← hurl]
      exact .profile
    · rintro _ ⟨⟩
      exact ⟨rfl, fun _ => rfl, fun _ => .inl ⟨avatar, d₁, stage, cause, failure⟩⟩
  | @lettered name _ number t avatar roster stored =>
    refine ⟨{ caller with name := name, avatar := fileName number (.tile t) }, ?_, .profile, ?_⟩
    · rw [roster]
      exact Roster.find?_setAvatar_self (Roster.find?_setName_self _ hrow)
    · rintro _ ⟨⟩
      exact ⟨rfl, fun hsome => absurd avatar hsome,
        fun _ => .inr ⟨Uuid.text number, t, fileName_tile number t, stored⟩⟩

end Tasks

/-! ## Requests -/

/-- An endpoint tells of a member: of the one in its path, or of the sender. -/
def Endpoint.Concerns (settings : Settings) (now : Int) (roster : Roster) (r : Request)
    (id : Int) : Endpoint → Prop
  | .welcome | .health => False
  | .showAvatar member | .errand (.uploadFor member) | .errand (.setFor member) =>
    Request.memberIn member = .ok id
  | .errand _ => ∃ caller, SentBy settings now roster r caller ∧ caller.id = id

/-- A member has taken the name that a request gives, without blanks around it. -/
structure Renamed (settings : Settings) (r : Request) (d d' : Desk) (id : Int) (row : Member) :
    Prop where
  name : ∃ text, r.Gives "name" text ∧ row.name = Text.strip text
  avatar : ∃ before, d.outside.roster.find? id = some before ∧ NameTaken settings d d' before row

section Requests

variable {settings : Settings} {now : Int} {r : Request} {d : Desk} {endpoint : Endpoint}
  {answer : Answer}

theorem tells_of_showAvatar {id : Int} (h : showAvatar d id = .ok answer) :
    ∃ row, d.outside.roster.find? id = some row ∧ answer.Tells d.outside row := by
  unfold showAvatar at h
  split at h
  · cases h
  · cases h
  rename_i row hrow
  obtain rfl := Except.ok.inj h
  have hfind := (lookUp_eq_ok_iff.1 hrow).2
  obtain rfl := Roster.id_of_find? hfind
  exact ⟨row, hfind, .avatar⟩

/-- What is answered for an endpoint tells of the row of a member. -/
theorem handle_truthful (hwelcome : endpoint ≠ .welcome) (hhealth : endpoint ≠ .health)
    (h : (handle settings now d r endpoint).reply = .ok answer) :
    ∃ id row, endpoint.Concerns settings now d.outside.roster r id ∧
      (handle settings now d r endpoint).desk.outside.roster.find? id = some row ∧
      answer.Tells (handle settings now d r endpoint).desk.outside row ∧
      (endpoint = .errand .setName →
        Renamed settings r d (handle settings now d r endpoint).desk id row) := by
  cases endpoint with
  | welcome => exact absurd rfl hwelcome
  | health => exact absurd rfl hhealth
  | showAvatar member =>
    replace h : answerAvatar d member = .ok answer := h
    unfold answerAvatar at h
    split at h
    · cases h
    · rename_i id hid
      obtain ⟨row, hrow, htells⟩ := tells_of_showAvatar h
      exact ⟨id, row, single_eq_ok hid, hrow, htells, nofun⟩
  | errand errand =>
    replace h : (runErrand settings now d r errand).reply = .ok answer := h
    rcases exists_deed settings now d r errand with
      ⟨rejection, -, hreply⟩ | ⟨caller, task, hsender, hunderstood, hdeed⟩
    · rw [hreply] at h
      cases h
    rw [h] at hdeed
    obtain ⟨row, hrow, htells, hname⟩ := hdeed.truthful hsender.row
    refine ⟨task.subject caller, row, ?_, hrow, htells, ?_⟩
    · cases hunderstood with
      | profile => exact ⟨caller, hsender, rfl⟩
      | setName => exact ⟨caller, hsender, rfl⟩
      | generateOwn => exact ⟨caller, hsender, rfl⟩
      | uploadOwn => exact ⟨caller, hsender, rfl⟩
      | uploadFor data number => exact number
      | setFor text number => exact number
    · rintro ⟨⟩
      cases hunderstood with
      | @setName text given short =>
        obtain ⟨hstripped, htaken⟩ := hname _ rfl
        exact ⟨⟨text, given, hstripped⟩, caller, hsender.row, htaken⟩

theorem le_status (e : Rejection) : 400 ≤ e.status := by
  unfold Rejection.status
  split <;> decide

/-- A response to a request for a member tells of the row of the member. -/
theorem respond_truthful (hroute : route settings.routePrefix r.method r.path = .found endpoint)
    (hwelcome : endpoint ≠ .welcome) (hhealth : endpoint ≠ .health)
    (hstatus : (respond settings now d r).response.status = 200) :
    ∃ id row j, endpoint.Concerns settings now d.outside.roster r id ∧
      (respond settings now d r).desk.outside.roster.find? id = some row ∧
      (respond settings now d r).response.content = .value j ∧
      Truthful (respond settings now d r).desk.outside row j ∧
      (endpoint = .errand .setName →
        Renamed settings r (named d r) (respond settings now d r).desk id row) := by
  have hpreflight : isPreflight r = false := not_preflight (ne_of_found hroute (by decide))
  have hhead : r.method ≠ "HEAD" := ne_of_found hroute (by decide)
  have hexchange : exchange settings now (named d r) r =
      handle settings now (named d r) r endpoint := by
    rw [exchange, hroute]
  rw [status_respond hpreflight, hexchange] at hstatus
  rw [desk_respond hpreflight, content_respond hpreflight hhead, hexchange]
  cases hreply : (handle settings now (named d r) r endpoint).reply with
  | error e =>
    rw [hreply] at hstatus
    have hlow : e.status = 200 := hstatus
    have hhigh := le_status e
    omega
  | ok answer =>
    obtain ⟨id, row, hconcerns, hrow, htells, hrenamed⟩ := handle_truthful hwelcome hhealth hreply
    obtain ⟨j, hcontent, htruthful⟩ := htells.truthful
    exact ⟨id, row, j, hconcerns, hrow, hcontent, htruthful, hrenamed⟩

end Requests

/-- **Responses tell the truth about the rows.** Whatever has been sent before: if a request for a
member succeeds, what it is answered is what is in the row of that member afterwards. The member is
that in the path, or the sender of the request. After a request for a new name the row has that name
without the blanks around it, and an avatar that is the one of before if there was one, and that of a
stored tile or none otherwise. -/
theorem run_truthful (settings : Settings) (d : Desk) (before : List Visit) (v : Visit)
    {endpoint : Endpoint}
    (hroute : route settings.routePrefix v.request.method v.request.path = .found endpoint)
    (hwelcome : endpoint ≠ .welcome) (hhealth : endpoint ≠ .health)
    (hstatus : (respond settings v.now (run settings d before) v.request).response.status = 200) :
    ∃ id row j,
      endpoint.Concerns settings v.now (run settings d before).outside.roster v.request id ∧
      (run settings d (before ++ [v])).outside.roster.find? id = some row ∧
      (respond settings v.now (run settings d before) v.request).response.content = .value j ∧
      Truthful (run settings d (before ++ [v])).outside row j ∧
      (endpoint = .errand .setName →
        Renamed settings v.request (named (run settings d before) v.request)
          (run settings d (before ++ [v])) id row) := by
  rw [run_concat]
  exact respond_truthful hroute hwelcome hhealth hstatus

/-- Whoever asks for a name and has an avatar is shown with the name. -/
theorem runErrand_renamed {settings : Settings} {now : Int} {r : Request} {d : Desk} {caller : Member}
    {name : String} (hread : readTask r .setName = .ok (.ok (.setName name)))
    (hcaller : authenticate (.ofSettings settings) now d.outside.roster r = .ok caller)
    (hshown : isPresentable { caller with name := name } = true) (havatar : caller.avatar ≠ "") :
    (runErrand settings now d r .setName).reply =
      .ok (.profile { caller with name := name } (d.outside.url caller.avatar)) := by
  simp only [runErrand, hread, hcaller, perform, setName, showProfile, hshown, if_true, havatar,
    ne_eq, not_false_eq_true]
  rfl

/-- A member with an avatar. -/
def portrayed : Member := { id := 1, avatar := "ada.gif" }

/-- A service with that member only. -/
def portraits : Desk where
  outside := { roster := ⟨[portrayed]⟩, files := ⟨{}, [], ""⟩ }
  names := { number := id }
  draws := {}

/-- A member gets a new name, and is told of it. -/
theorem renamed_truthful :
    (respond guestSettings 0 (run guestSettings portraits []) (callMeAda ticketHeaders)).response.status
        = 200 ∧
      ∃ id row j,
        (run guestSettings portraits [⟨callMeAda ticketHeaders, 0⟩]).outside.roster.find? id =
          some row ∧
        (respond guestSettings 0 (run guestSettings portraits [])
          (callMeAda ticketHeaders)).response.content = .value j ∧
        Truthful (run guestSettings portraits [⟨callMeAda ticketHeaders, 0⟩]).outside row j := by
  have hpreflight : isPreflight (callMeAda ticketHeaders) = false := rfl
  have htype : (callMeAda ticketHeaders).header? "content-type" = none :=
    (header?_ticketHeaders rfl _).trans (if_neg (by decide))
  have hcaller : authenticate (.ofSettings guestSettings) 0
      (named portraits (callMeAda ticketHeaders)).outside.roster (callMeAda ticketHeaders) =
      .ok portrayed := authenticate_ticket rfl rfl rfl rfl
  have hreply := runErrand_renamed (readTask_callMeAda _ htype) hcaller (by decide) (by decide)
  have hstatus : (respond guestSettings 0 portraits (callMeAda ticketHeaders)).response.status =
      200 := by
    rw [status_respond hpreflight, exchange_callMeAda, hreply]
    rfl
  obtain ⟨id, row, j, -, hrow, hcontent, htruthful, -⟩ := run_truthful guestSettings portraits []
    ⟨callMeAda ticketHeaders, 0⟩ route_callMeAda nofun nofun hstatus
  exact ⟨hstatus, id, row, j, hrow, hcontent, htruthful⟩

end Portrait.Web
