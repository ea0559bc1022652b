import Portrait.Proofs.Gif.Extent
import Portrait.Proofs.Storage.Calls
import Portrait.Proofs.Text.Ascii
import Portrait.Proofs.Text.Base64
import Portrait.Proofs.Web.Deeds
import Portrait.Proofs.Web.Routing

/-!
# Two ways to send a picture

A picture can be posted as a file, or put as a text in base 64. The size of a file is counted, that of a
text is computed from its length, padding included.

* `pictureText`, `decodedSize_pictureText`, `decodePicture_pictureText` — the text of a picture.
* `Request.Puts`, `readTask_of_puts` — a request with a text, and how it is understood.
* `Twins` — two requests that send the same picture for the same member, in either way.
* `RefusesSize` — a response that refuses a picture for its size.
* `Twins.refusesSize_put`, `Twins.refusesSize_post` — which pictures are refused for their size.
* `twins_picture` — two such requests for any picture.

Main statement: what is not refused for its size is handled in one way (`Twins.agree`). A picture can
be refused as a text that is none too large as a file (`byte_refused_as_text`).
-/

set_option autoImplicit false

namespace Portrait.Web

open Avatar (fileName path)
open Gif (dot)

/-! ## Pictures as texts -/

/-- The text of a picture. -/
def pictureText (data : Bytes) : String :=
  String.ofList ((Base64.encode data).map fun b => Char.ofNat b.toNat)

/-- The size that is computed for a text is that of the picture up to the next multiple of three. -/
theorem decodedSize_pictureText (data : Bytes) :
    Form.decodedSize (pictureText data) = 3 * ((data.length + 2) / 3) := by
  rw [Form.decodedSize, pictureText, String.length_ofList, List.length_map, Base64.length_encode]
  omega

theorem decodePicture_pictureText (data : Bytes) :
    Form.decodePicture (pictureText data) = .ok data := by
  have hascii : (pictureText data).all (fun c : Char => decide (c.toNat < 128)) = true := by
    rw [String.all_bool_eq, pictureText, String.toList_ofList, List.all_eq_true]
    intro c hc
    obtain ⟨b, hb, rfl⟩ := List.mem_map.1 hc
    have hall : ∀ n < 0x80, (Char.ofNat n).toNat < 128 := by decide
    exact decide_eq_true (hall b.toNat (UInt8.lt_iff_toNat_lt.1 (Base64.lt_of_mem_encode hb)))
  have hbytes : Bytes.ofString (pictureText data) = Base64.encode data :=
    Bytes.ofString_ofAscii fun b hb => Base64.lt_of_mem_encode hb
  rw [Form.decodePicture, if_pos hascii, hbytes, Base64.decode?_encode]

theorem pictureText_ne_empty {data : Bytes} (h : data ≠ []) : pictureText data ≠ "" := by
  intro hempty
  have hlength := congrArg String.length hempty
  rw [pictureText, String.length_ofList, List.length_map, Base64.length_encode] at hlength
  have hdata := List.length_pos_iff.2 h
  have hnone : "".length = 0 := rfl
  omega

/-! ## Twins -/

/-- A request uploads a picture as a file. -/
def Request.Uploads (r : Request) (data : Bytes) : Prop :=
  ∃ fields, r.fields = .ok fields ∧ Request.uploaded fields = .ok data

/-- Two requests of one caller, who may change the avatar of a member: one puts a picture as a text,
the other posts the same picture as a file. They draw the same names for new files. -/
structure Twins (settings : Settings) (now : Int) (d : Desk) (put post : Request) (caller : Member)
    (member : String) (id : Int) (data : Bytes) : Prop where
  put_method : put.method = "PUT"
  post_method : post.method = "POST"
  endpoint : route settings.routePrefix "PUT" put.path = .found (.errand (.setFor member))
  path : post.path = put.path
  number : Request.memberIn member = .ok id
  text : put.Gives "avatar" (pictureText data)
  file : post.Uploads data
  some_data : data ≠ []
  put_caller : authenticate (.ofSettings settings) now d.outside.roster put = .ok caller
  post_caller : authenticate (.ofSettings settings) now d.outside.roster post = .ok caller
  may : mayEdit caller id = true
  names : (nameRequest d.names put).2 = (nameRequest d.names post).2

/-- Whoever gives a text under a name has it read as such. -/
theorem read_of_gives {r : Request} {name text s : String} {check : String → Except Problem String}
    (h : r.Gives name text) (hcheck : check text = .ok s) :
    ∃ sent, r.sent = .ok sent ∧
      sent.read (fun shape j => Form.readMember shape name check j) = .ok s := by
  obtain ⟨members, codes, hsent, hget, htext⟩ := h
  refine ⟨_, hsent, ?_⟩
  simp only [Request.Sent.read, Form.readMember, hget, Form.readText, htext, hcheck]

/-- A request asks for the picture in a text to be made the avatar of a member. -/
structure Request.Puts (r : Request) (member : String) (id : Int) (text : String) : Prop where
  number : Request.memberIn member = .ok id
  given : r.Gives "avatar" text
  some_text : text ≠ ""

theorem readTask_of_puts {r : Request} {member text : String} {id : Int}
    (h : r.Puts member id text) : readTask r (.setFor member) = .ok (.ok (.set id text)) := by
  have hcheck : Form.checkPicture text = .ok text := if_neg h.some_text
  obtain ⟨sent, hsent, hread⟩ := read_of_gives h.given hcheck
  have hpicture : sent.read Form.readPicture = .ok text := hread
  have hboth : both (Request.memberIn member) (sent.read Form.readPicture) = .ok (id, text) := by
    rw [h.number, hpicture]
    rfl
  simp only [readTask, hsent, Except.map, hboth]

/-! ## Sizes -/

/-- The reasons to refuse a picture for its size. -/
def Rejection.IsForSize (settings : Settings) (e : Rejection) : Prop :=
  e = .dataTooLarge ∨ e = .fileTooLarge settings.maxUpload

/-- The response refuses a picture for its size. -/
def Response.RefusesSize (settings : Settings) (response : Response) : Prop :=
  ∃ e : Rejection, e.IsForSize settings ∧ response.status = e.status ∧
    response.content = (Response.ofReply (.error e)).content

section Sizes

variable {settings : Settings} {now : Int} {d d' : Desk} {r : Request} {id : Int} {data : Bytes}
  {reply : Except Rejection Answer}

theorem refusesSize_of_reply {e : Rejection} (hpreflight : isPreflight r = false)
    (hmethod : r.method ≠ "HEAD") (he : e.IsForSize settings)
    (hreply : (exchange settings now (named d r) r).reply = .error e) :
    (respond settings now d r).response.RefusesSize settings := by
  refine ⟨e, he, ?_, ?_⟩
  · rw [status_respond hpreflight, hreply]
    rfl
  · rw [content_respond hpreflight hmethod, hreply]
    rcases he with rfl | rfl <;> rfl

/-- What the avatar service may reply. -/
theorem reply_of_saveAvatar (settings : Settings) (d : Desk) (id : Int) (data : Bytes) :
    (∃ answer, (saveAvatar settings d id data).2 = .ok answer) ∨
      (∃ refusal, (saveAvatar settings d id data).2 = .error (.refused refusal)) ∨
      (saveAvatar settings d id data).2 = .error .noMember ∨
      (saveAvatar settings d id data).2 = .error .crash ∨
      (saveAvatar settings d id data).2 = .error .serverError := by
  unfold saveAvatar
  split
  · exact .inl ⟨_, rfl⟩
  · exact .inr (.inl ⟨_, rfl⟩)
  · exact .inr (.inr (.inl rfl))
  · exact .inr (.inr (.inr (.inl rfl)))
  · exact .inr (.inr (.inr (.inr rfl)))

theorem detail_eq_of_content {e e' : Rejection}
    (h : (Response.ofReply (.error e)).content = (Response.ofReply (.error e')).content) :
    e.detail = e'.detail := by
  have hmembers := Json.object.inj (Content.value.inj h)
  exact (Prod.mk.inj (List.cons.inj hmembers).1).2

/-- No picture that has come to the avatar service is refused for its size. -/
theorem not_refusesSize_of_reply (hpreflight : isPreflight r = false) (hmethod : r.method ≠ "HEAD")
    (h : (exchange settings now (named d r) r).reply = (saveAvatar settings d' id data).2) :
    ¬ (respond settings now d r).response.RefusesSize settings := by
  rintro ⟨e, he, hstatus, hcontent⟩
  rw [status_respond hpreflight, h] at hstatus
  rw [content_respond hpreflight hmethod, h] at hcontent
  have hfits : e.status = 400 ∧ e = .dataTooLarge ∨ e.status = 413 := by
    rcases he with rfl | rfl
    · exact .inl ⟨rfl, rfl⟩
    · exact .inr rfl
  rcases reply_of_saveAvatar settings d' id data with
    ⟨answer, hreply⟩ | ⟨refusal, hreply⟩ | hreply | hreply | hreply
  all_goals rw [hreply] at hstatus hcontent
  · have hanswer : (Response.ofReply (.ok answer)).status < 400 := status_lt_of_answer answer
    omega
  · have hrefused : (Response.ofReply (.error (.refused refusal))).status = 400 := rfl
    rcases hfits with ⟨-, rfl⟩ | hlarge
    · have hwords := CodePoints.ofString_inj.1 (Json.text.inj (detail_eq_of_content hcontent))
      cases refusal <;> exact absurd hwords (by decide)
    · omega
  all_goals
    rcases hfits with ⟨hsmall, -⟩ | hlarge
    · rw [hsmall] at hstatus
      exact absurd hstatus (by decide)
    · rw [hlarge] at hstatus
      exact absurd hstatus (by decide)

end Sizes

namespace Twins

variable {settings : Settings} {now : Int} {d : Desk} {put post : Request} {caller : Member}
  {member : String} {id : Int} {data : Bytes}

/-- What comes of a picture that was sent. -/
def exchangeOf (settings : Settings) (d : Desk) (caller : Member) (id : Int)
    (data : Except Rejection Bytes) : Exchange :=
  ⟨(saveChecked settings d caller id data).1, some caller.id, (saveChecked settings d caller id data).2⟩

theorem exchange_put (h : Twins settings now d put post caller member id data) :
    exchange settings now (named d put) put =
      exchangeOf settings (named d put) caller id (checkText settings (pictureText data)) := by
  have hputs : put.Puts member id (pictureText data) :=
    ⟨h.number, h.text, pictureText_ne_empty h.some_data⟩
  have htask := readTask_of_puts hputs
  have hcaller : authenticate (.ofSettings settings) now (named d put).outside.roster put = .ok caller :=
    h.put_caller
  rw [exchange, h.put_method, h.endpoint]
  simp only [handle, runErrand, htask, hcaller, perform]
  rfl

theorem named_eq (h : Twins settings now d put post caller member id data) :
    named d post = named d put := by
  rw [named, named, h.names]

theorem exchange_post (h : Twins settings now d put post caller member id data) :
    exchange settings now (named d post) post =
      exchangeOf settings (named d put) caller id (checkFile settings data) := by
  obtain ⟨fields, hfields, hupload⟩ := h.file
  have htask : readTask post (.uploadFor member) = .ok (.ok (.upload (some id) data)) := by
    have hboth : both (Request.memberIn member) (Request.uploaded fields) = .ok (id, data) := by
      rw [h.number, hupload]
      rfl
    simp only [readTask, hfields, Except.map, Except.mapError, hboth]
  have hme : member ≠ "me" := by
    rintro rfl
    cases h.number
  have hcaller : authenticate (.ofSettings settings) now (named d put).outside.roster post =
      .ok caller := h.post_caller
  rw [h.named_eq, exchange, h.post_method, h.path, found_uploadFor h.endpoint hme]
  simp only [handle, runErrand, htask, hcaller, perform]
  rfl

theorem put_not_preflight (h : Twins settings now d put post caller member id data) :
    isPreflight put = false ∧ put.method ≠ "HEAD" := by
  rw [h.put_method]
  exact ⟨not_preflight (by rw [h.put_method]; decide), by decide⟩

theorem post_not_preflight (h : Twins settings now d put post caller member id data) :
    isPreflight post = false ∧ post.method ≠ "HEAD" := by
  rw [h.post_method]
  exact ⟨not_preflight (by rw [h.post_method]; decide), by decide⟩

/-- Two requests that are handled in one way are answered in one way. -/
theorem respond_eq (h : Twins settings now d put post caller member id data)
    (heq : exchange settings now (named d put) put = exchange settings now (named d post) post) :
    (respond settings now d put).response.status = (respond settings now d post).response.status ∧
      (respond settings now d put).response.content = (respond settings now d post).response.content ∧
      (respond settings now d put).desk = (respond settings now d post).desk := by
  obtain ⟨hput, hputs⟩ := h.put_not_preflight
  obtain ⟨hpost, hposts⟩ := h.post_not_preflight
  rw [status_respond hput, status_respond hpost, content_respond hput hputs,
    content_respond hpost hposts, desk_respond hput, desk_respond hpost, heq]
  exact ⟨rfl, rfl, rfl⟩

/-! ## Refusals -/

theorem exchangeOf_error (hmay : mayEdit caller id = true) (e : Rejection) :
    exchangeOf settings d caller id (.error e) = ⟨d, some caller.id, .error e⟩ := by
  simp only [exchangeOf, saveChecked, hmay, if_true]

theorem exchangeOf_ok (hmay : mayEdit caller id = true) (data : Bytes) :
    exchangeOf settings d caller id (.ok data) =
      ⟨(saveAvatar settings d id data).1, some caller.id, (saveAvatar settings d id data).2⟩ := by
  simp only [exchangeOf, saveChecked, hmay, if_true]

/-- A picture is refused as a text if its size up to the next multiple of three is too large. -/
theorem refusesSize_put (h : Twins settings now d put post caller member id data) :
    (respond settings now d put).response.RefusesSize settings ↔
      settings.maxUpload < (3 * ((data.length + 2) / 3) : Nat) := by
  obtain ⟨hpreflight, hmethod⟩ := h.put_not_preflight
  have hexchange := h.exchange_put
  rw [checkText, decodedSize_pictureText, decodePicture_pictureText] at hexchange
  constructor
  · intro hrefuses
    by_contra hsmall
    rw [if_neg hsmall, exchangeOf_ok h.may] at hexchange
    exact not_refusesSize_of_reply hpreflight hmethod (congrArg Exchange.reply hexchange) hrefuses
  · intro hlarge
    rw [if_pos hlarge, exchangeOf_error h.may] at hexchange
    exact refusesSize_of_reply hpreflight hmethod (.inl rfl) (congrArg Exchange.reply hexchange)

/-- A picture is refused as a file if it is too large. -/
theorem refusesSize_post (h : Twins settings now d put post caller member id data) :
    (respond settings now d post).response.RefusesSize settings ↔
      settings.maxUpload < data.length := by
  obtain ⟨hpreflight, hmethod⟩ := h.post_not_preflight
  have hexchange := h.exchange_post
  rw [checkFile] at hexchange
  constructor
  · intro hrefuses
    by_contra hsmall
    rw [if_neg hsmall, exchangeOf_ok h.may] at hexchange
    exact not_refusesSize_of_reply hpreflight hmethod (congrArg Exchange.reply hexchange) hrefuses
  · intro hlarge
    rw [if_pos hlarge, exchangeOf_error h.may] at hexchange
    exact refusesSize_of_reply hpreflight hmethod (.inr rfl) (congrArg Exchange.reply hexchange)

/-- **Both ways to send a picture agree, but for the size.** As a file a picture is refused for its
size if it is too large, as a text if its size up to the next multiple of three is. A picture that is
not refused as a text is answered alike in either way, and leaves the same rows and files behind. -/
theorem agree (h : Twins settings now d put post caller member id data) :
    ((respond settings now d put).response.RefusesSize settings ↔
      settings.maxUpload < (3 * ((data.length + 2) / 3) : Nat)) ∧
    ((respond settings now d post).response.RefusesSize settings ↔
      settings.maxUpload < data.length) ∧
    (¬ (respond settings now d put).response.RefusesSize settings →
      (respond settings now d put).response.status = (respond settings now d post).response.status ∧
      (respond settings now d put).response.content =
        (respond settings now d post).response.content ∧
      (respond settings now d put).desk = (respond settings now d post).desk) := by
  refine ⟨h.refusesSize_put, h.refusesSize_post, ?_⟩
  intro hfits
  rw [h.refusesSize_put] at hfits
  have hfile : ¬ settings.maxUpload < data.length := by omega
  apply h.respond_eq
  rw [h.exchange_put, h.exchange_post, checkText, checkFile, decodedSize_pictureText,
    decodePicture_pictureText, if_neg hfits, if_neg hfile]

end Twins

/-! ## A member who sends pictures -/

/-- A service with one member. -/
def oneMember : Desk where
  outside := { roster := ⟨[{ id := 1, name := "ada" }]⟩, files := ⟨{}, [], ""⟩ }
  names := { number := id }
  draws := {}

/-- A picture put as a text. -/
def putPicture (data : Bytes) : Request where
  method := "PUT"
  path := "/api/v1/users/1/avatar"
  headers := ticketHeaders
  body := .value (.ofMembers [("avatar", .ofString (pictureText data))])

/-- The same picture posted as a file. -/
def postPicture (data : Bytes) : Request where
  method := "POST"
  path := "/api/v1/users/1/avatar"
  headers := ticketHeaders
  body := .fields [⟨"avatar", .file data⟩]

theorem route_putPicture :
    route "/api/v1" "PUT" "/api/v1/users/1/avatar" = .found (.errand (.setFor "1")) := by
  have hpath : withoutLineEnd "/api/v1/users/1/avatar" = "/api/v1/users/1/avatar" := by decide
  simp only [route, hits, routes, Route.accept?, hpath, splitOn_slash]
  decide

/-- A request with a ticket has no name of its own, so that a number is drawn for it. -/
theorem nameRequest_of_ticket {r : Request} (h : r.headers = ticketHeaders) (names : Uuid.Supply) :
    nameRequest names r = (Uuid.hex names.next.1, names.next.2) := by
  rw [nameRequest, (header?_ticketHeaders h _).trans (if_neg (by decide))]

theorem twins_picture {data : Bytes} (hdata : data ≠ []) (limit : Int) :
    Twins { guestSettings with maxUpload := limit } 0 oneMember (putPicture data) (postPicture data)
      { id := 1, name := "ada" } "1" 1 data where
  put_method := rfl
  post_method := rfl
  endpoint := route_putPicture
  path := rfl
  number := rfl
  text := by
    have htype : (putPicture data).header? "content-type" = none :=
      (header?_ticketHeaders rfl _).trans (if_neg (by decide))
    exact ⟨_, _, sent_of_value rfl htype, Json.get?_ofMembers _ "avatar",
      CodePoints.toString?_ofString _⟩
  file := by
    have htype : (postPicture data).header? "content-type" = none :=
      (header?_ticketHeaders rfl _).trans (if_neg (by decide))
    refine ⟨[⟨"avatar", .file data⟩], ?_, rfl⟩
    rw [Request.fields, Request.type?, htype]
    rfl
  some_data := hdata
  put_caller := authenticate_ticket rfl rfl rfl rfl
  post_caller := authenticate_ticket rfl rfl rfl rfl
  may := rfl
  names := by
    rw [nameRequest_of_ticket (r := putPicture data) rfl,
      nameRequest_of_ticket (r := postPicture data) rfl]

/-- The name of the file for the second number that is drawn. -/
def dotFile : String := "00000000-0000-0000-0000-000000000001.gif"

theorem place_dotFile : oneMember.outside.files.place (path dotFile) = .ok ["avatars", dotFile] := by
  have hnames : Storage.names (path dotFile) = ["avatars", dotFile] := by
    rw [Storage.Local.names_eq]
    decide +kernel
  rw [Storage.Local.place_eq_append (by decide +kernel) (by decide +kernel)
    (by rw [hnames]; decide +kernel), hnames]
  rfl

/-- An animation that fits already is stored as it is, and its file becomes the avatar. -/
theorem saveAvatar_dot {d : Desk} (houtside : d.outside = oneMember.outside)
    (hnumber : d.names.next.1 = 1) :
    ∃ d', saveAvatar guestSettings d 1 (dot 99 99) = (d', .ok (newAvatar d' 1 dotFile)) ∧
      d'.outside.roster.find? 1 = some { id := 1, name := "ada", avatar := dotFile } ∧
      d'.outside.files.Holds (path dotFile) (.bytes (dot 99 99)) := by
  have hprobe : probe (dot 99 99) guestSettings.avatarMinSide guestSettings.avatarMaxSide =
      .ok ⟨.gif, 100, 100⟩ := by decide +kernel
  have hlookUp : Site.collaborators.lookUp d.outside 1 =
      (oneMember.outside, .ok { id := 1, name := "ada" }) := by
    rw [houtside]
    rfl
  have hart : Avatar.Artwork.ofUpload guestSettings .gif (dot 99 99) =
      (.ok (.bytes (dot 99 99)), none) := by
    with_unfolding_all rfl
  have hfile : fileName 1 (.bytes (dot 99 99)) = dotFile := by decide +kernel
  rcases hsave : oneMember.outside.files.save (path dotFile) (.bytes (dot 99 99)) with ⟨files, e⟩
  obtain rfl : e = none := by
    rw [Storage.Local.save_eq_write place_dotFile (List.cons_ne_nil _ _)] at hsave
    rw [← (Prod.mk.inj hsave).2]
    decide +kernel
  have hstore : Site.collaborators.store oneMember.outside (path dotFile) (.bytes (dot 99 99)) =
      ({ oneMember.outside with files := files }, none) := by
    simp only [Site.collaborators, Site.store, hsave, Option.map_none]
  simp only [saveAvatar, Avatar.save, Avatar.craftUpload, hprobe, hlookUp, hart, Avatar.publish,
    Avatar.store, hnumber, hfile, hstore, Avatar.replace]
  exact ⟨_, rfl, rfl, Storage.Local.holds_of_save hsave⟩

theorem twins_dot : Twins guestSettings 0 oneMember (putPicture (dot 99 99)) (postPicture (dot 99 99))
    { id := 1, name := "ada" } "1" 1 (dot 99 99) :=
  twins_picture (by decide) 5242880

theorem dot_fits : ¬ guestSettings.maxUpload < (3 * (((dot 99 99).length + 2) / 3) : Nat) := by
  decide

theorem exchange_dot :
    ∃ d', exchange guestSettings 0 (named oneMember (putPicture (dot 99 99)))
        (putPicture (dot 99 99)) = ⟨d', some 1, .ok (newAvatar d' 1 dotFile)⟩ ∧
      d'.outside.roster.find? 1 = some { id := 1, name := "ada", avatar := dotFile } ∧
      d'.outside.files.Holds (path dotFile) (.bytes (dot 99 99)) := by
  have hnumber : (named oneMember (putPicture (dot 99 99))).names.next.1 = 1 := by
    rw [named, nameRequest_of_ticket (r := putPicture (dot 99 99)) rfl]
    rfl
  obtain ⟨d', hsaved, hrow, hholds⟩ := saveAvatar_dot
    (d := named oneMember (putPicture (dot 99 99))) rfl hnumber
  refine ⟨d', ?_, hrow, hholds⟩
  rw [twins_dot.exchange_put, checkText, decodedSize_pictureText, decodePicture_pictureText,
    if_neg dot_fits, Twins.exchangeOf_ok twins_dot.may, hsaved]

/-- The member sends an animation of the right size in both ways. Either way it is taken, is stored, and
is the avatar afterwards. -/
theorem dot_agree :
    Twins guestSettings 0 oneMember (putPicture (dot 99 99)) (postPicture (dot 99 99))
        { id := 1, name := "ada" } "1" 1 (dot 99 99) ∧
      (respond guestSettings 0 oneMember (putPicture (dot 99 99))).response.status = 200 ∧
      (respond guestSettings 0 oneMember (postPicture (dot 99 99))).response.status = 200 ∧
      (respond guestSettings 0 oneMember (putPicture (dot 99 99))).response.content =
        (respond guestSettings 0 oneMember (postPicture (dot 99 99))).response.content ∧
      (respond guestSettings 0 oneMember (postPicture (dot 99 99))).desk.outside.roster.find? 1 =
        some { id := 1, name := "ada", avatar := dotFile } ∧
      (respond guestSettings 0 oneMember (postPicture (dot 99 99))).desk.outside.files.Holds
        (path dotFile) (.bytes (dot 99 99)) := by
  obtain ⟨hput, -, hsame⟩ := twins_dot.agree
  obtain ⟨hstatus, hcontent, hdesk⟩ := hsame (mt hput.1 dot_fits)
  obtain ⟨d', hexchange, hrow, hholds⟩ := exchange_dot
  have hok : (respond guestSettings 0 oneMember (putPicture (dot 99 99))).response.status = 200 := by
    rw [status_respond twins_dot.put_not_preflight.1, hexchange]
    rfl
  refine ⟨twins_dot, hok, hstatus.symm.trans hok, hcontent, ?_, ?_⟩
  all_goals rw [← hdesk, desk_respond twins_dot.put_not_preflight.1, hexchange]
  · exact hrow
  · exact hholds

/-- A byte is refused as a text where it is none too large as a file. -/
theorem byte_refused_as_text :
    (respond { guestSettings with maxUpload := 1 } 0 oneMember (putPicture [0x41])).response.RefusesSize
        { guestSettings with maxUpload := 1 } ∧
      ¬ (respond { guestSettings with maxUpload := 1 } 0 oneMember
        (postPicture [0x41])).response.RefusesSize { guestSettings with maxUpload := 1 } := by
  have htwins := twins_picture (List.cons_ne_nil 0x41 []) 1
  rw [htwins.refusesSize_put, htwins.refusesSize_post]
  decide

end Portrait.Web
