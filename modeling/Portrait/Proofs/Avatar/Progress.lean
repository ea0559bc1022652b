import Mathlib.Logic.Function.Iterate
import Portrait.Avatar.Service

/-!
# Updates step by step

An update makes the artwork for the row of its member, stores it, lets the row name the new file, and
removes the file that the row named when it was read. Between two of these steps anything else may
happen; this module cuts an update into them.

* `Update.perform` — the whole of an update, as the service does it.
* `Progress.step` — the next step of an update.
* `Update.Begun`, `Update.begun` — everything that a first step can do.

Main statement: the steps of an update, taken one right after the other, are the whole of it
(`advance_iterate`).
-/

set_option autoImplicit false

namespace Portrait.Avatar

section Steps

variable {σ : Type} (c : Collaborators σ) (settings : Settings) (s : Session σ)

/-- What the service is asked for. -/
inductive Update where
  | upload (member : Int) (data : Bytes)
  | letter (member : Int)

/-- The member whose avatar is to change. -/
def Update.member : Update → Int
  | .upload id _ => id
  | .letter id => id

/-- The whole of an update. -/
def Update.perform : Update → Session σ × Except SaveError String
  | .upload id data => save c s settings id data
  | .letter id => generate c s settings id

/-- The first step of an update. -/
def Update.begin : Update → Session σ × Except SaveError Commission
  | .upload id data => craftUpload c s settings id data
  | .letter id => craftLetter c s settings id

/-- How far an update has come, with what it remembers of the steps before. -/
inductive Progress where
  | asked (u : Update)
  | crafted (job : Commission)
  | stored (job : Commission) (file : String)
  | recorded (job : Commission) (file : String)
  | finished (result : Except SaveError String)

/-- The next step of an update. -/
def Progress.step : Progress → Session σ × Progress
  | .asked u =>
    match u.begin c settings s with
    | (s, .error e) => (s, .finished (.error e))
    | (s, .ok job) => (s, .crafted job)
  | .crafted job =>
    match store c s job.art with
    | (s, .error e) => (s, .finished (.error e))
    | (s, .ok file) => (s, .stored job file)
  | .stored job file =>
    match c.record s.outside job.owner.id file with
    | (outside, some cause) =>
      ({ s with outside := outside }, .finished (.error (.failed .updateRecord cause)))
    | (outside, none) => ({ s with outside := outside }, .recorded job file)
  | .recorded job file =>
    ((if job.owner.avatar = "" then s else removeOld c s job.owner.avatar).note (job.event file),
      .finished (.ok file))
  | .finished result => (s, .finished result)

/-- The next step of an update while nothing else happens. -/
def advance (x : Session σ × Progress) : Session σ × Progress := x.2.step c settings x.1

end Steps

variable {σ : Type} {c : Collaborators σ} {settings : Settings} {s : Session σ} {u : Update}

/-! ## The steps are the whole -/

theorem perform_eq_begin :
    u.perform c settings s =
      match u.begin c settings s with
      | (s, .error e) => (s, .error e)
      | (s, .ok job) => publish c s job := by
  cases u <;> rfl

/-- From the artwork on, the steps are what `publish` does. -/
theorem advance_crafted (job : Commission) :
    (advance c settings)^[3] (s, .crafted job) =
      ((publish c s job).1, .finished (publish c s job).2) := by
  simp only [Function.iterate_succ_apply, Function.iterate_zero, id, publish, replace]
  rcases hs : store c s job.art with ⟨s₁, e | file⟩
  · simp only [advance, Progress.step, hs]
  · rcases hr : c.record s₁.outside job.owner.id file with ⟨outside, _ | cause⟩ <;>
      simp only [advance, Progress.step, hs, hr]

/-- Steps that nothing comes between are the whole of an update. -/
theorem advance_iterate :
    (advance c settings)^[4] (s, .asked u) =
      ((u.perform c settings s).1, .finished (u.perform c settings s).2) := by
  rw [perform_eq_begin, Function.iterate_succ_apply]
  rcases hb : u.begin c settings s with ⟨s₁, e | job⟩
  · simp only [Function.iterate_succ_apply, Function.iterate_zero, id, advance, Progress.step, hb]
  · rw [show advance c settings (s, .asked u) = (s₁, .crafted job) by
      simp only [advance, Progress.step, hb]]
    exact advance_crafted job

/-! ## First steps -/

/-- What a first step can do: an upload is refused before anything is done outside; there is no row;
no artwork can be made for the row; or it is made. -/
inductive Update.Begun (c : Collaborators σ) (s : Session σ) (u : Update) :
    Session σ × Except SaveError Commission → Prop where
  | refused (r : Refusal) : Begun c s u (s, .error (.refused r))
  | notFound {outside : σ} (cause : Cause)
      (row : c.lookUp s.outside u.member = (outside, .error cause)) :
      Begun c s u ({ s with outside := outside }, .error (.notFound cause))
  | failed {s' : Session σ} {owner : Member} (stage : Stage) (cause : Cause)
      (row : c.lookUp s.outside u.member = (s'.outside, .ok owner)) (names : s'.names = s.names) :
      Begun c s u (s', .error (.failed stage cause))
  | crafted {s' : Session σ} (job : Commission)
      (row : c.lookUp s.outside u.member = (s'.outside, .ok job.owner))
      (names : s'.names = s.names) : Begun c s u (s', .ok job)

theorem Update.begun (settings : Settings) : u.Begun c s (u.begin c settings s) := by
  cases u with
  | upload id data =>
    simp only [Update.begin, craftUpload]
    split
    · exact .refused _
    rename_i p _
    split
    · rename_i hl
      exact .notFound _ hl
    rename_i outside owner hl
    rcases Artwork.ofUpload settings p.format data with ⟨⟨stage, cause⟩ | art, _ | e⟩
    all_goals first | exact .failed _ _ hl rfl | exact .crafted _ hl rfl
  | letter id =>
    simp only [Update.begin, craftLetter]
    split
    · rename_i hl
      exact .notFound _ hl
    rename_i outside owner hl
    rcases Artwork.ofName settings s.fonts s.draws owner.name with ⟨⟨stage, cause⟩ | art, draws⟩
    · exact .failed _ _ hl rfl
    · exact .crafted _ hl rfl

end Portrait.Avatar
