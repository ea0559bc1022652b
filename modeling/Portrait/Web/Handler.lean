import Portrait.Web.Answer
import Portrait.Web.Caller
import Portrait.Web.Route
import Portrait.Web.Site

/-!
# Handling requests

The body of a request is read first; then it is seen who sends it; then all that was sent is checked;
and only then is anything done.

* `readTask` — what a caller asks for.
* `perform` — does it.
* `handle` — a request that is for an endpoint, from its body to the reply.
-/

namespace Portrait.Web

open Avatar (Session)

/-- The state of the service while it handles a request. -/
abbrev Desk := Session Site

/-- The state after a request was handled, and what is answered. -/
abbrev Handled := Desk × Except Rejection Answer

/-- The row of a member, if a profile can show it. -/
def showProfile (d : Desk) (m : Member) : Except Rejection Answer :=
  if isPresentable m then .ok (.profile m (d.outside.url m.avatar)) else .error .crash

/-- The avatar of a member. -/
def showAvatar (d : Desk) (id : Int) : Except Rejection Answer :=
  match Avatar.Records.lookUp d.outside.roster id with
  | .error (.noMember _) => .error .noMember
  | .error _ => .error .crash
  | .ok m => .ok (.avatar id m.avatar (d.outside.url m.avatar))

/-- What is answered when a member has a new avatar. -/
def newAvatar (d : Desk) (id : Int) (file : String) : Answer := .avatar id file (d.outside.url file)

/-- Makes an upload the avatar of a member. -/
def saveAvatar (settings : Settings) (d : Desk) (id : Int) (data : Bytes) : Handled :=
  match Avatar.save Site.collaborators d settings id data with
  | (d, .ok file) => (d, .ok (newAvatar d id file))
  | (d, .error (.refused r)) => (d, .error (.refused r))
  | (d, .error (.notFound (.noMember _))) => (d, .error .noMember)
  | (d, .error (.notFound _)) => (d, .error .crash)
  | (d, .error (.failed stage cause)) => (d.note (.saveFailed id stage cause), .error .serverError)

/-- Makes a letter avatar for the caller. -/
def generateAvatar (settings : Settings) (d : Desk) (caller : Member) : Handled :=
  match Avatar.generate Site.collaborators d settings caller.id with
  | (d, .ok file) => (d, .ok (newAvatar d caller.id file))
  | (d, .error (.failed stage _)) => (d.note (.generateFailed caller.id stage), .error .serverError)
  | (d, .error _) => (d, .error .crash)

/-- Gives the caller another name. A caller without an avatar gets a letter avatar; if that fails, the
name is changed all the same. -/
def setName (settings : Settings) (d : Desk) (caller : Member) (name : String) : Handled :=
  let caller := { caller with name := name }
  let d := { d with outside := { d.outside with roster := d.outside.roster.setName caller.id name } }
  match showProfile d caller with
  | .error e => (d, .error e)
  | .ok answer =>
    if caller.avatar ≠ "" then (d, .ok answer)
    else
      match Avatar.generate Site.collaborators d settings caller.id with
      | (d, .ok file) => (d, .ok (.profile { caller with avatar := file } (d.outside.url file)))
      | (d, .error (.failed stage _)) => (d.note (.generateFailed caller.id stage), .ok answer)
      | (d, .error _) => (d, .error .crash)

/-- May the caller change the avatar of a member? -/
def mayEdit (caller : Member) (id : Int) : Bool := caller.id = id || caller.isAdmin

/-- A file that was sent, if it is not too large. -/
def checkFile (settings : Settings) (data : Bytes) : Except Rejection Bytes :=
  if settings.maxUpload < data.length then .error (.fileTooLarge settings.maxUpload) else .ok data

/-- The picture in a text that was sent, if it is not too large. -/
def checkText (settings : Settings) (text : String) : Except Rejection Bytes :=
  if settings.maxUpload < Form.decodedSize text then .error .dataTooLarge
  else
    match Form.decodePicture text with
    | .error _ => .error .badData
    | .ok data => .ok data

/-- Makes a picture the avatar of a member, if the caller may do so. -/
def saveChecked (settings : Settings) (d : Desk) (caller : Member) (id : Int)
    (data : Except Rejection Bytes) : Handled :=
  if mayEdit caller id then
    match data with
    | .error e => (d, .error e)
    | .ok data => saveAvatar settings d id data
  else (d, .error .forbidden)

/-- What a caller asks for, once all that was sent is understood. The caller need not be named. -/
inductive Task where
  | profile
  | setName (name : String)
  | generate
  | upload (member : Option Int) (data : Bytes)
  | set (member : Int) (text : String)

/-- Does what a caller asks for. -/
def perform (settings : Settings) (d : Desk) (caller : Member) : Task → Handled
  | .profile => (d, showProfile d caller)
  | .setName name => setName settings d caller name
  | .generate => generateAvatar settings d caller
  | .upload id data => saveChecked settings d caller (id.getD caller.id) (checkFile settings data)
  | .set id text => saveChecked settings d caller id (checkText settings text)

/-- Reads what a caller asks for. A body that cannot be read at all is an error outside; what is wrong
with that which was sent is an error inside. -/
def readTask (r : Request) : Errand → Except Rejection (Except Rejection Task)
  | .profile => .ok (.ok .profile)
  | .generateOwn => .ok (.ok .generate)
  | .setName => r.sent.map fun sent => (single (sent.read Form.readName)).map .setName
  | .setFor member => r.sent.map fun sent =>
      (both (Request.memberIn member) (sent.read Form.readPicture)).map fun x => .set x.1 x.2
  | .uploadOwn => (r.fields.mapError .badForm).map fun fs =>
      (single (Request.uploaded fs)).map (.upload none)
  | .uploadFor member => (r.fields.mapError .badForm).map fun fs =>
      (both (Request.memberIn member) (Request.uploaded fs)).map fun x => .upload (some x.1) x.2

/-- A request that has been handled. -/
structure Exchange where
  desk : Desk
  /-- The member who was found to have sent it. -/
  caller : Option Int := none
  reply : Except Rejection Answer

/-- Runs an errand in the second `now`. -/
def runErrand (settings : Settings) (now : Int) (d : Desk) (r : Request) (e : Errand) : Exchange :=
  match readTask r e with
  | .error e => ⟨d, none, .error e⟩
  | .ok task =>
    match authenticate (.ofSettings settings) now d.outside.roster r with
    | .error e => ⟨d, none, .error e⟩
    | .ok caller =>
      match task with
      | .error e => ⟨d, some caller.id, .error e⟩
      | .ok task =>
        let (d, reply) := perform settings d caller task
        ⟨d, some caller.id, reply⟩

/-- Shows the avatar of a member, whoever asks. -/
def answerAvatar (d : Desk) (member : String) : Except Rejection Answer :=
  match single (Request.memberIn member) with
  | .error e => .error e
  | .ok id => showAvatar d id

/-- Handles a request that is for an endpoint. -/
def handle (settings : Settings) (now : Int) (d : Desk) (r : Request) : Endpoint → Exchange
  | .welcome => ⟨d, none, .ok (.welcome settings.projectName settings.version)⟩
  | .health => ⟨d, none, .ok .health⟩
  | .showAvatar member => ⟨d, none, answerAvatar d member⟩
  | .errand e => runErrand settings now d r e

end Portrait.Web
