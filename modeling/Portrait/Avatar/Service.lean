import Portrait.Avatar.Artwork
import Portrait.Avatar.Event
import Portrait.Avatar.Records
import Portrait.Text.Uuid

/-!
# The avatar service

Every update stores a new file under a fresh name. The row of the member is updated only after the
file is stored, and the previous file is removed only after the row points at the new one.

* `Collaborators` — what the service does to the table of members and to stored files.
* `store`, `replace` — the steps of an update.
* `craftUpload`, `craftLetter` — what goes before them: the artwork for the row of a member.
* `save`, `generate` — an avatar from an upload, or a letter avatar.
-/

namespace Portrait.Avatar

/-- What the service does to the world outside, of which `σ` is the state. Each of these may fail. -/
structure Collaborators (σ : Type) where
  /-- Looks up the row of a member. -/
  lookUp : σ → Int → σ × Except Cause Member
  /-- Stores a file under a path. -/
  store : σ → String → Artwork → σ × Option Cause
  /-- Lets the row of a member name another file. -/
  record : σ → Int → String → σ × Option Cause
  /-- Removes the file at a path. -/
  remove : σ → String → σ × Option Cause

/-- The service at work: the world outside, the names and choices that are left, what has been logged,
and the fonts on the machine. -/
structure Session (σ : Type) where
  outside : σ
  names : Uuid.Supply
  draws : Draws
  log : List Event := []
  fonts : Fonts := fun _ => none

/-- The session after something has been logged. -/
def Session.note {σ : Type} (s : Session σ) (e : Event) : Session σ := { s with log := s.log ++ [e] }

/-- What the paths of all avatars begin with. -/
def folder : String := "avatars/"

/-- Where the file with a name is stored. -/
def path (file : String) : String := folder ++ file

/-- The name of the file for an artwork, of the number that was drawn for it. -/
def fileName (number : Nat) (art : Artwork) : String := Uuid.text number ++ "." ++ art.extension

/-- An artwork for a member, and what is logged when its file has become the avatar. -/
structure Commission where
  owner : Member
  art : Artwork
  event : String → Event

section Steps

variable {σ : Type} (c : Collaborators σ) (s : Session σ)

/-- Stores an artwork under a fresh name. -/
def store (art : Artwork) : Session σ × Except SaveError String :=
  let (number, names) := s.names.next
  let file := fileName number art
  match c.store s.outside (path file) art with
  | (outside, some cause) =>
    ({ s with outside := outside, names := names }, .error (.failed .store cause))
  | (outside, none) => (({ s with outside := outside, names := names }).note (.saved file), .ok file)

/-- Removes a file that is not needed any more. It does not matter if that fails. -/
def removeOld (file : String) : Session σ :=
  match c.remove s.outside (path file) with
  | (outside, some cause) => ({ s with outside := outside }).note (.removeFailed file cause)
  | (outside, none) => ({ s with outside := outside }).note (.oldRemoved file)

/-- Lets the row of a member name a new file, then removes the previous one. -/
def replace (owner : Member) (file : String) : Session σ × Option SaveError :=
  match c.record s.outside owner.id file with
  | (outside, some cause) => ({ s with outside := outside }, some (.failed .updateRecord cause))
  | (outside, none) =>
    let s := { s with outside := outside }
    (if owner.avatar = "" then s else removeOld c s owner.avatar, none)

/-- Makes an artwork the avatar of its member. -/
def publish (job : Commission) : Session σ × Except SaveError String :=
  match store c s job.art with
  | (s, .error e) => (s, .error e)
  | (s, .ok file) =>
    match replace c s job.owner file with
    | (s, some e) => (s, .error e)
    | (s, none) => (s.note (job.event file), .ok file)

/-- Makes the artwork for an upload. Nothing is done outside before it has passed the gate. -/
def craftUpload (settings : Settings) (id : Int) (data : Bytes) :
    Session σ × Except SaveError Commission :=
  match probe data settings.avatarMinSide settings.avatarMaxSide with
  | .error e => (s, .error (.refused e))
  | .ok p =>
    match c.lookUp s.outside id with
    | (outside, .error cause) => ({ s with outside := outside }, .error (.notFound cause))
    | (outside, .ok owner) =>
      let (crafted, unreadable) := Artwork.ofUpload settings p.format data
      let s := { s with outside := outside }
      let s := match unreadable with
        | some e => s.note (.orientationUnreadable e)
        | none => s
      match crafted with
      | .error (stage, cause) => (s, .error (.failed stage cause))
      | .ok art => (s, .ok ⟨owner, art, fun file => .uploaded id file p.format⟩)

/-- Makes the letter avatar for the name of a member. -/
def craftLetter (settings : Settings) (id : Int) : Session σ × Except SaveError Commission :=
  match c.lookUp s.outside id with
  | (outside, .error cause) => ({ s with outside := outside }, .error (.notFound cause))
  | (outside, .ok owner) =>
    let (crafted, draws) := Artwork.ofName settings s.fonts s.draws owner.name
    let s := { s with outside := outside, draws := draws }
    match crafted with
    | .error (stage, cause) => (s, .error (.failed stage cause))
    | .ok art => (s, .ok ⟨owner, art, fun file => .generated id file⟩)

/-- Makes an upload the avatar of a member. -/
def save (settings : Settings) (id : Int) (data : Bytes) : Session σ × Except SaveError String :=
  match craftUpload c s settings id data with
  | (s, .error e) => (s, .error e)
  | (s, .ok job) => publish c s job

/-- Makes a letter avatar for the name of a member. -/
def generate (settings : Settings) (id : Int) : Session σ × Except SaveError String :=
  match craftLetter c s settings id with
  | (s, .error e) => (s, .error e)
  | (s, .ok job) => publish c s job

end Steps

/-- The address of an avatar; empty if there is none. -/
def url (address : String → String) (avatar : String) : String :=
  if avatar = "" then "" else address (path avatar)

end Portrait.Avatar
