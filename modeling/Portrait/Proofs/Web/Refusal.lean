import Portrait.Proofs.Avatar.Files
import Portrait.Proofs.Web.Deeds

/-!
# What refused requests leave behind

A request that is refused changes no row, and no file either unless it failed in the service. There
is one exception: a member whose avatar has a longer name than a profile can show gets a new name and
an error.

* `Roster.Renewed` — the names of avatars that come anew can be shown.
* `Deed.refused`, `respond_refused` — what a refused task and a refused request leave behind.
* `UnshownRename` — the exception.

Main statement: `run_refused`. The exception is real (`long_avatar_renamed`).
-/

set_option autoImplicit false

namespace Portrait

/-! ## Names of avatars -/

namespace Roster

/-- The same rows in the same order, each with its avatar or with one that a profile can show. -/
def Renewed (r r' : Roster) : Prop :=
  List.Forall₂ (fun m m' : Member =>
    m'.id = m.id ∧ (m'.avatar = m.avatar ∨ m'.avatar.length ≤ Web.maxFileName)) r.members r'.members

variable {r r₁ r₂ r₃ : Roster} {id : Int}

theorem Renewed.refl (r : Roster) : r.Renewed r :=
  List.forall₂_same.2 fun _ _ => ⟨rfl, .inl rfl⟩

theorem Renewed.trans (h : r₁.Renewed r₂) (h' : r₂.Renewed r₃) : r₁.Renewed r₃ := by
  refine forall₂_trans ?_ h h'
  rintro a b c ⟨hid, havatar⟩ ⟨hid', havatar'⟩
  refine ⟨hid'.trans hid, ?_⟩
  rcases havatar' with hsame | hshort
  · rw [hsame]
    exact havatar
  · exact .inr hshort

theorem renewed_update {change : Member → Member} (hid : ∀ m, (change m).id = m.id)
    (havatar : ∀ m, (change m).avatar = m.avatar ∨ (change m).avatar.length ≤ Web.maxFileName) :
    r.Renewed (r.update id change) := by
  rw [Renewed, update, List.forall₂_map_right_iff, List.forall₂_same]
  intro m _
  split
  · exact ⟨hid m, havatar m⟩
  · exact ⟨rfl, .inl rfl⟩

theorem renewed_setName (name : String) : r.Renewed (r.setName id name) :=
  renewed_update (fun _ => rfl) fun _ => .inl rfl

theorem renewed_setAvatar {file : String} (h : file.length ≤ Web.maxFileName) :
    r.Renewed (r.setAvatar id file) :=
  renewed_update (fun _ => rfl) fun _ => .inr h

theorem exists_of_forall₂ {α : Type} {R : α → α → Prop} {xs ys : List α} {y : α}
    (h : List.Forall₂ R xs ys) (hy : y ∈ ys) : ∃ x ∈ xs, R x y := by
  induction h with
  | nil => cases hy
  | @cons x y' xs ys hxy _ ih =>
    rcases List.mem_cons.1 hy with rfl | hrest
    · exact ⟨x, List.mem_cons_self .., hxy⟩
    · obtain ⟨a, ha, hay⟩ := ih hrest
      exact ⟨a, List.mem_cons_of_mem _ ha, hay⟩

/-- An avatar that cannot be shown was there before. -/
theorem Renewed.exists_long {m : Member} (h : r₁.Renewed r₂) (hfind : r₂.find? id = some m)
    (hlong : Web.maxFileName < m.avatar.length) :
    ∃ m₁ ∈ r₁.members, m₁.id = m.id ∧ m₁.avatar = m.avatar := by
  obtain ⟨m₁, hm₁, hid, hsame | hshort⟩ := exists_of_forall₂ h (mem_of_find? hfind)
  · exact ⟨m₁, hm₁, hid.symm, hsame.symm⟩
  · exact absurd hlong (Nat.not_lt.2 hshort)

end Roster

theorem Avatar.length_fileName_le (number : Nat) (art : Artwork) :
    (fileName number art).length ≤ Web.maxFileName := by
  have hextension : art.extension.length = 3 := by
    cases art with
    | bytes bs => exact (rfl : "gif".length = 3)
    | tile t => exact (rfl : "png".length = 3)
    | picture e =>
      cases e with
      | jpeg => exact (rfl : "jpg".length = 3)
      | png => exact (rfl : "png".length = 3)
  have hdot : ".".length = 1 := rfl
  have htext : (Uuid.text number).length = 36 := Uuid.length_text number
  rw [fileName, String.length_append, String.length_append, htext, hdot, hextension, Web.maxFileName]
  decide

namespace Web

/-! ## Tasks -/

section Tasks

variable {settings : Settings} {d d' : Desk} {caller : Member} {task : Task}
  {reply : Except Rejection Answer}

/-- A refused task changes no row, unless it is that a member got a new name who cannot be shown; and
it changes nothing at all unless it failed in the service. -/
theorem Deed.refused {e : Rejection} (h : Deed settings d caller task (d', .error e)) :
    (e.status < 500 → d'.outside = d.outside) ∧
      (d'.outside.roster = d.outside.roster ∨ e.status = 500 ∧ maxFileName < caller.avatar.length ∧
        ∃ name, task = .setName name ∧ d' = rename d caller.id name) := by
  cases h with
  | turnedAway => exact ⟨fun _ => rfl, .inl rfl⟩
  | failed roster => exact ⟨fun hstatus => absurd hstatus (by decide), .inl roster⟩
  | unshown long =>
    exact ⟨fun hstatus => absurd hstatus (by decide), .inr ⟨rfl, long, _, rfl, rfl⟩⟩

theorem Deed.renewed (h : Deed settings d caller task (d', reply)) :
    d.outside.roster.Renewed d'.outside.roster := by
  cases h with
  | turnedAway => exact .refl d.outside.roster
  | shown => exact .refl d.outside.roster
  | failed roster =>
    rw [roster]
    exact .refl d.outside.roster
  | saved number art other row roster =>
    rw [roster]
    exact Roster.renewed_setAvatar (Avatar.length_fileName_le number art)
  | unshown => exact Roster.renewed_setName _
  | renamed => exact Roster.renewed_setName _
  | unlettered stage cause avatar failure roster =>
    rw [roster]
    exact Roster.renewed_setName _
  | lettered number t avatar roster stored =>
    rw [roster]
    exact (Roster.renewed_setName _).trans
      (Roster.renewed_setAvatar (Avatar.length_fileName_le number _))

end Tasks

/-! ## Requests -/

/-- A caller whose avatar has a longer name than a profile can show asked for another name, and got
it. Nothing else was changed. -/
structure UnshownRename (settings : Settings) (now : Int) (r : Request) (d d' : Desk)
    (caller : Member) (text : String) : Prop where
  endpoint : route settings.routePrefix r.method r.path = .found (.errand .setName)
  sender : SentBy settings now d.outside.roster r caller
  given : r.Gives "name" text
  long : maxFileName < caller.avatar.length
  outside : d'.outside =
    { d.outside with roster := d.outside.roster.setName caller.id (Text.strip text) }

section Requests

open Avatar (Session)

variable {settings : Settings} {now : Int} {r : Request} {d : Desk}

/-- Whoever asks for a name and cannot be shown with it gets the name and an error. -/
theorem runErrand_unshown {caller : Member} {name : String}
    (hread : readTask r .setName = .ok (.ok (.setName name)))
    (hcaller : authenticate (.ofSettings settings) now d.outside.roster r = .ok caller)
    (hhidden : isPresentable { caller with name := name } = false) :
    runErrand settings now d r .setName =
      ⟨rename d caller.id name, some caller.id, .error .crash⟩ := by
  simp only [runErrand, hread, hcaller, perform, setName, showProfile, hhidden]
  rfl

theorem exchange_refused {e : Rejection} (h : (exchange settings now d r).reply = .error e) :
    (e.status < 500 → (exchange settings now d r).desk.outside = d.outside) ∧
      ((exchange settings now d r).desk.outside.roster = d.outside.roster ∨ e.status = 500 ∧
        ∃ caller text, UnshownRename settings now r d (exchange settings now d r).desk caller text) := by
  unfold exchange at h ⊢
  split at h
  · rename_i endpoint hroute
    cases endpoint with
    | welcome => cases h
    | health => cases h
    | showAvatar member => exact ⟨fun _ => rfl, .inl rfl⟩
    | errand errand =>
      rcases exists_deed settings now d r errand with
        ⟨rejection, hdesk, -⟩ | ⟨caller, task, hsender, hunderstood, hdeed⟩
      · have houtside := congrArg Session.outside hdesk
        exact ⟨fun _ => houtside, .inl (congrArg Site.roster houtside)⟩
      · replace h : (runErrand settings now d r errand).reply = .error e := h
        rw [h] at hdeed
        obtain ⟨hfiles, hrows⟩ := hdeed.refused
        refine ⟨hfiles, hrows.imp_right ?_⟩
        rintro ⟨hstatus, hlong, name, rfl, hdesk⟩
        cases hunderstood with
        | @setName text given short =>
          exact ⟨hstatus, caller, text, hroute, hsender, given, hlong,
            congrArg Session.outside hdesk⟩
  · exact ⟨fun _ => rfl, .inl rfl⟩
  · cases h
  · exact ⟨fun _ => rfl, .inl rfl⟩

theorem exchange_renewed :
    d.outside.roster.Renewed (exchange settings now d r).desk.outside.roster := by
  unfold exchange
  split
  · rename_i endpoint _
    cases endpoint with
    | welcome => exact .refl d.outside.roster
    | health => exact .refl d.outside.roster
    | showAvatar member => exact .refl d.outside.roster
    | errand errand =>
      rcases exists_deed settings now d r errand with
        ⟨rejection, hdesk, -⟩ | ⟨caller, task, -, -, hdeed⟩
      · simp only [handle, hdesk]
        exact .refl d.outside.roster
      · exact hdeed.renewed
  · exact .refl d.outside.roster
  · exact .refl d.outside.roster
  · exact .refl d.outside.roster

/-- A request with an error for a status changes no row, unless it is that a member got a new name who
cannot be shown; and it changes nothing outside at all if the error is that of the sender. -/
theorem respond_refused (h : 400 ≤ (respond settings now d r).response.status) :
    ((respond settings now d r).response.status < 500 →
      (respond settings now d r).desk.outside = d.outside) ∧
    ((respond settings now d r).desk.outside.roster = d.outside.roster ∨
      (respond settings now d r).response.status = 500 ∧ ∃ caller text,
        UnshownRename settings now r d (respond settings now d r).desk caller text) := by
  cases hpreflight : isPreflight r with
  | true =>
    have houtside : (respond settings now d r).desk.outside = d.outside :=
      outside_respond_of_preflight hpreflight
    exact ⟨fun _ => houtside, .inl (congrArg Site.roster houtside)⟩
  | false =>
    rw [status_respond hpreflight] at h ⊢
    rw [desk_respond hpreflight]
    cases hreply : (exchange settings now (named d r) r).reply with
    | ok answer =>
      rw [hreply] at h
      exact absurd h (Nat.not_le.2 (status_lt_of_answer answer))
    | error e =>
      obtain ⟨hfiles, hrows⟩ := exchange_refused hreply
      refine ⟨hfiles, hrows.imp_right ?_⟩
      rintro ⟨hstatus, caller, text, hrename⟩
      exact ⟨hstatus, caller, text, hrename.endpoint, hrename.sender, hrename.given, hrename.long,
        hrename.outside⟩

theorem respond_renewed :
    d.outside.roster.Renewed (respond settings now d r).desk.outside.roster := by
  cases hpreflight : isPreflight r with
  | true =>
    rw [outside_respond_of_preflight hpreflight]
    exact .refl d.outside.roster
  | false =>
    rw [desk_respond hpreflight]
    exact exchange_renewed (d := named d r)

end Requests

/-! ## Runs -/

theorem run_renewed (settings : Settings) (d : Desk) (visits : List Visit) :
    d.outside.roster.Renewed (run settings d visits).outside.roster := by
  induction visits generalizing d with
  | nil => exact .refl d.outside.roster
  | cons v visits ih => exact respond_renewed.trans (ih (serve settings d v))

/-- **Refused requests leave no trace, but for one exception.** Whatever has been sent before: if a
request gets an error for a status, all rows are as they were, and if the error is that of the sender,
all files are too. The exception is a new name for a member whose avatar has a longer name than a
profile can show; the name is kept, and the status is 500. Such an avatar was there from the
beginning. -/
theorem run_refused (settings : Settings) (d : Desk) (before : List Visit) (v : Visit)
    (h : 400 ≤ (respond settings v.now (run settings d before) v.request).response.status) :
    ((respond settings v.now (run settings d before) v.request).response.status < 500 →
      (serve settings (run settings d before) v).outside = (run settings d before).outside) ∧
    ((serve settings (run settings d before) v).outside.roster =
        (run settings d before).outside.roster ∨
      (respond settings v.now (run settings d before) v.request).response.status = 500 ∧
        ∃ caller text, UnshownRename settings v.now v.request (run settings d before)
            (serve settings (run settings d before) v) caller text ∧
          ∃ m ∈ d.outside.roster.members, m.id = caller.id ∧ m.avatar = caller.avatar) := by
  obtain ⟨hfiles, hrows⟩ := respond_refused h
  refine ⟨hfiles, hrows.imp_right ?_⟩
  rintro ⟨hstatus, caller, text, hrename⟩
  exact ⟨hstatus, caller, text, hrename,
    (run_renewed settings d before).exists_long hrename.sender.row hrename.long⟩

/-- A member with an avatar of 256 characters. -/
def overlong : Member := { id := 1, avatar := String.ofList (List.replicate 256 'a') }

/-- A service with that member only. -/
def longAvatar : Desk where
  outside := { roster := ⟨[overlong]⟩, files := ⟨{}, [], ""⟩ }
  names := { number := id }
  draws := {}

/-- A name that comes without a token is refused. -/
theorem nameless_refused :
    400 ≤ (respond guestSettings 0 (run guestSettings longAvatar [⟨callMeAda ticketHeaders, 0⟩])
        (callMeAda [])).response.status ∧
      (serve guestSettings (run guestSettings longAvatar [⟨callMeAda ticketHeaders, 0⟩])
        ⟨callMeAda [], 0⟩).outside =
          (run guestSettings longAvatar [⟨callMeAda ticketHeaders, 0⟩]).outside := by
  have hstatus : ∀ d, (respond guestSettings 0 d (callMeAda [])).response.status = 401 := by
    intro d
    have hreply : (exchange guestSettings 0 (named d (callMeAda [])) (callMeAda [])).reply =
        .error .unauthenticated := by
      rw [exchange_callMeAda]
      simp only [runErrand, readTask_callMeAda [] rfl]
      rfl
    rw [status_respond rfl, hreply]
    rfl
  have hrefused := run_refused guestSettings longAvatar [⟨callMeAda ticketHeaders, 0⟩]
    ⟨callMeAda [], 0⟩ (by rw [hstatus]; decide)
  refine ⟨by rw [hstatus]; decide, hrefused.1 (by rw [hstatus]; decide)⟩

/-- A member with an avatar of 256 characters gets a new name and an error. -/
theorem long_avatar_renamed :
    (respond guestSettings 0 longAvatar (callMeAda ticketHeaders)).response.status = 500 ∧
      (respond guestSettings 0 longAvatar (callMeAda ticketHeaders)).desk.outside.roster ≠
        longAvatar.outside.roster := by
  have hheader : ∀ name, "authorization" ≠ name → (callMeAda ticketHeaders).header? name = none :=
    fun name hname => (header?_ticketHeaders rfl name).trans (if_neg hname)
  have hpreflight : isPreflight (callMeAda ticketHeaders) = false := rfl
  have hcaller : authenticate (.ofSettings guestSettings) 0
      (named longAvatar (callMeAda ticketHeaders)).outside.roster (callMeAda ticketHeaders) =
      .ok overlong := authenticate_ticket rfl rfl rfl rfl
  have hhidden : isPresentable { overlong with name := "Ada" } = false := by
    simp only [isPresentable, overlong, String.length_ofList, List.length_replicate]
    decide
  have hread := readTask_callMeAda _ (hheader "content-type" (by decide))
  have hexchange := (exchange_callMeAda (named longAvatar (callMeAda ticketHeaders))
    ticketHeaders).trans (runErrand_unshown hread hcaller hhidden)
  constructor
  · rw [status_respond hpreflight, hexchange]
    rfl
  · rw [desk_respond hpreflight, hexchange]
    decide

end Web

end Portrait
