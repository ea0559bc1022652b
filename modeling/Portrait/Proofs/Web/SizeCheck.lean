import Portrait.Proofs.Web.Uploads

/-!
# The size of a picture that is sent as a text

How large the picture in a text is gets computed from the length of the text, before anything is
decoded. Nothing else stands between the text and the avatar service, so the number has to be right for
all texts that can be decoded, also for those with more padding than any picture needs.

* `length_decodePicture` — the size of the picture in a text that can be decoded.
* `decodePicture_cases` — what becomes of any text.
* `PutEnds` — how a request to put a picture ends, and when it ends how.
* `exchange_eq_iff` — every such request ends in exactly one of these ways.

Main statement: `size_check_bounds`.
-/

set_option autoImplicit false

namespace Portrait.Web

/-! ## Texts -/

section Texts

variable {text : String} {data : Bytes}

theorem all_ascii_iff : text.all (fun c : Char => decide (c.toNat < 128)) = true ↔
    ∀ c ∈ text.toList, c.toNat < 128 := by
  rw [String.all_bool_eq, List.all_eq_true]
  simp only [decide_eq_true_eq]

/-- What becomes of a text: it is decoded, or it is not in ASCII, or it is, but not base 64. -/
theorem decodePicture_cases (text : String) :
    (∃ data, Form.decodePicture text = .ok data) ∨
      (Form.decodePicture text = .error .notAscii ∧ ∃ c ∈ text.toList, 128 ≤ c.toNat) ∨
      Form.decodePicture text = .error .notBase64 ∧ ∀ c ∈ text.toList, c.toNat < 128 := by
  unfold Form.decodePicture
  split
  · rename_i hascii
    rw [all_ascii_iff] at hascii
    split
    · exact .inl ⟨_, rfl⟩
    · exact .inr (.inr ⟨rfl, hascii⟩)
  · rename_i hother
    rw [all_ascii_iff] at hother
    push Not at hother
    exact .inr (.inl ⟨rfl, hother⟩)

/-- The picture in a text has three bytes for four characters that are no padding. -/
theorem length_decodePicture (h : Form.decodePicture text = .ok data) :
    (Bytes.ofString text).length = text.length ∧
      data.length = 3 * (Bytes.ofString text).countP (· ≠ Base64.pad) / 4 := by
  unfold Form.decodePicture at h
  split at h
  · rename_i hascii
    split at h
    · rename_i bs hdecode
      cases h
      exact ⟨Bytes.length_ofString_of_ascii (all_ascii_iff.1 hascii),
        Base64.length_of_decode? hdecode⟩
    · cases h
  · cases h

theorem length_le_decodedSize (h : Form.decodePicture text = .ok data) :
    data.length ≤ Form.decodedSize text := by
  obtain ⟨hbytes, hdata⟩ := length_decodePicture h
  -- padding counts in the size that is computed, but not in the picture
  have hcount := List.countP_le_length (p := (· ≠ Base64.pad)) (l := Bytes.ofString text)
  rw [hbytes] at hcount
  rw [hdata, Form.decodedSize]
  omega

end Texts

/-! ## Requests to put a picture -/

theorem readTask_setFor_iff {r : Request} {member : String} {task : Task} :
    readTask r (.setFor member) = .ok (.ok task) ↔
      ∃ id text, r.Puts member id text ∧ task = .set id text := by
  constructor
  · intro h
    obtain ⟨sent, hsent, htask⟩ := map_eq_ok h
    obtain ⟨⟨id, text⟩, hboth, rfl⟩ := map_eq_ok htask
    obtain ⟨hnumber, hpicture⟩ := both_eq_ok hboth
    obtain ⟨j, rfl, hread⟩ := read_eq_ok hpicture
    obtain ⟨members, codes, given, rfl, hget, htext, hcheck⟩ := readMember_eq_ok hread
    unfold Form.checkPicture at hcheck
    split at hcheck
    · cases hcheck
    · rename_i hne
      cases hcheck
      exact ⟨id, _, ⟨hnumber, ⟨members, codes, hsent, hget, htext⟩, hne⟩, rfl⟩
  · rintro ⟨id, text, hputs, rfl⟩
    exact readTask_of_puts hputs

/-- How a request to put a picture ends, and when it ends how. The avatar service is called in the last
of the cases only, and with a picture that is not too large. -/
inductive PutEnds (settings : Settings) (now : Int) (d : Desk) (r : Request) (member : String) :
    Exchange → Prop where
  /-- The body cannot be read at all. -/
  | unread {e : Rejection} (body : readTask r (.setFor member) = .error e) :
      PutEnds settings now d r member ⟨d, none, .error e⟩
  /-- Nobody is known to have sent the request. -/
  | unknown {e : Rejection} {task : Except Rejection Task}
      (body : readTask r (.setFor member) = .ok task)
      (sender : authenticate (.ofSettings settings) now d.outside.roster r = .error e) :
      PutEnds settings now d r member ⟨d, none, .error e⟩
  /-- Something is wrong with what was sent. -/
  | invalid {e : Rejection} {caller : Member}
      (body : readTask r (.setFor member) = .ok (.error e))
      (sender : authenticate (.ofSettings settings) now d.outside.roster r = .ok caller) :
      PutEnds settings now d r member ⟨d, some caller.id, .error e⟩
  | forbidden {caller : Member} {id : Int} {text : String} (body : r.Puts member id text)
      (sender : authenticate (.ofSettings settings) now d.outside.roster r = .ok caller)
      (stranger : mayEdit caller id = false) :
      PutEnds settings now d r member ⟨d, some caller.id, .error .forbidden⟩
  | tooLarge {caller : Member} {id : Int} {text : String} (body : r.Puts member id text)
      (sender : authenticate (.ofSettings settings) now d.outside.roster r = .ok caller)
      (may : mayEdit caller id = true) (large : settings.maxUpload < Form.decodedSize text) :
      PutEnds settings now d r member ⟨d, some caller.id, .error .dataTooLarge⟩
  | undecodable {caller : Member} {id : Int} {text : String} {e : Form.DecodeError}
      (body : r.Puts member id text)
      (sender : authenticate (.ofSettings settings) now d.outside.roster r = .ok caller)
      (may : mayEdit caller id = true) (small : Form.decodedSize text ≤ settings.maxUpload)
      (data : Form.decodePicture text = .error e) :
      PutEnds settings now d r member ⟨d, some caller.id, .error .badData⟩
  /-- The avatar service gets the picture. -/
  | handedOn {caller : Member} {id : Int} {text : String} {data : Bytes}
      (body : r.Puts member id text)
      (sender : authenticate (.ofSettings settings) now d.outside.roster r = .ok caller)
      (may : mayEdit caller id = true) (small : Form.decodedSize text ≤ settings.maxUpload)
      (decoded : Form.decodePicture text = .ok data)
      (fits : (data.length : Int) ≤ settings.maxUpload) :
      PutEnds settings now d r member
        ⟨(saveAvatar settings d id data).1, some caller.id, (saveAvatar settings d id data).2⟩

section Requests

variable {settings : Settings} {now : Int} {d : Desk} {r : Request} {member : String} {x : Exchange}

theorem runErrand_of_puts {caller : Member} {id : Int} {text : String} (hputs : r.Puts member id text)
    (hsender : authenticate (.ofSettings settings) now d.outside.roster r = .ok caller) :
    runErrand settings now d r (.setFor member) =
      Twins.exchangeOf settings d caller id (checkText settings text) := by
  simp only [runErrand, readTask_of_puts hputs, hsender]
  rfl

/-- In each case the request ends as it is said. -/
theorem PutEnds.eq (h : PutEnds settings now d r member x) :
    runErrand settings now d r (.setFor member) = x := by
  cases h with
  | unread body => simp only [runErrand, body]
  | unknown body sender => simp only [runErrand, body, sender]
  | invalid body sender => simp only [runErrand, body, sender]
  | forbidden body sender stranger =>
    rw [runErrand_of_puts body sender]
    simp only [Twins.exchangeOf, saveChecked, stranger, Bool.false_eq_true, if_false]
  | tooLarge body sender may large =>
    rw [runErrand_of_puts body sender, checkText, if_pos large, Twins.exchangeOf_error may]
  | undecodable body sender may small data =>
    rw [runErrand_of_puts body sender, checkText, if_neg (Int.not_lt.2 small), data,
      Twins.exchangeOf_error may]
  | handedOn body sender may small decoded fits =>
    rw [runErrand_of_puts body sender, checkText, if_neg (Int.not_lt.2 small), decoded,
      Twins.exchangeOf_ok may]

/-- The picture of a caller who is let in ends somewhere. -/
theorem exists_putEnds_of_puts {caller : Member} {id : Int} {text : String}
    (hputs : r.Puts member id text)
    (hsender : authenticate (.ofSettings settings) now d.outside.roster r = .ok caller) :
    ∃ x, PutEnds settings now d r member x := by
  cases hmay : mayEdit caller id with
  | false => exact ⟨_, .forbidden hputs hsender hmay⟩
  | true =>
    by_cases hlarge : settings.maxUpload < Form.decodedSize text
    · exact ⟨_, .tooLarge hputs hsender hmay hlarge⟩
    · have hsmall := Int.not_lt.1 hlarge
      cases hdecode : Form.decodePicture text with
      | error e => exact ⟨_, .undecodable hputs hsender hmay hsmall hdecode⟩
      | ok data =>
        have hlength := length_le_decodedSize hdecode
        exact ⟨_, .handedOn hputs hsender hmay hsmall hdecode (by omega)⟩

/-- There is no other case. -/
theorem exists_putEnds (settings : Settings) (now : Int) (d : Desk) (r : Request) (member : String) :
    ∃ x, PutEnds settings now d r member x := by
  cases hread : readTask r (.setFor member) with
  | error e => exact ⟨_, .unread hread⟩
  | ok task =>
    cases hsender : authenticate (.ofSettings settings) now d.outside.roster r with
    | error e => exact ⟨_, .unknown hread hsender⟩
    | ok caller =>
      cases task with
      | error e => exact ⟨_, .invalid hread hsender⟩
      | ok task =>
        obtain ⟨id, text, hputs, rfl⟩ := readTask_setFor_iff.1 hread
        exact exists_putEnds_of_puts hputs hsender

/-- **A request to put a picture ends in exactly one way.** -/
theorem exchange_eq_iff
    (hroute : route settings.routePrefix r.method r.path = .found (.errand (.setFor member))) :
    exchange settings now d r = x ↔ PutEnds settings now d r member x := by
  have hrun : exchange settings now d r = runErrand settings now d r (.setFor member) := by
    rw [exchange, hroute]
    rfl
  rw [hrun]
  constructor
  · rintro rfl
    obtain ⟨x, hends⟩ := exists_putEnds settings now d r member
    rw [hends.eq]
    exact hends
  · exact PutEnds.eq

end Requests

/-- **The size that is computed for a text can be trusted.** It is never less than that of the picture
in the text, and for a text that was written for a picture it is at most two bytes more; so the limit
for uploads holds for all that comes to the avatar service from requests to put a picture. Every text
is decoded or has one of two faults, either of which is told to the sender. -/
theorem size_check_bounds :
    (∀ (text : String) (data : Bytes), Form.decodePicture text = .ok data →
      data.length ≤ Form.decodedSize text) ∧
    (∀ data : Bytes, Form.decodePicture (pictureText data) = .ok data ∧
      Form.decodedSize (pictureText data) ≤ data.length + 2) ∧
    (∀ (settings : Settings) (now : Int) (d : Desk) (r : Request) (member : String) (x : Exchange),
      route settings.routePrefix r.method r.path = .found (.errand (.setFor member)) →
        (exchange settings now d r = x ↔ PutEnds settings now d r member x)) ∧
    ∀ text : String, (∃ data, Form.decodePicture text = .ok data) ∨
      (Form.decodePicture text = .error .notAscii ∧ ∃ c ∈ text.toList, 128 ≤ c.toNat) ∨
      Form.decodePicture text = .error .notBase64 ∧ ∀ c ∈ text.toList, c.toNat < 128 := by
  refine ⟨fun text data h => length_le_decodedSize h,
    fun data => ⟨decodePicture_pictureText data, ?_⟩,
    fun settings now d r member x hroute => exchange_eq_iff hroute, decodePicture_cases⟩
  rw [decodedSize_pictureText]
  omega

/-- The hypotheses of `size_check_bounds` hold of a text with superfluous padding, and of a request to
put a picture of one byte, which is handed on to the avatar service. -/
theorem byte_size_check :
    (Form.decodePicture "QUJD===" = .ok [0x41, 0x42, 0x43] ∧
      [0x41, 0x42, 0x43].length ≤ Form.decodedSize "QUJD===") ∧
    route "/api/v1" "PUT" "/api/v1/users/1/avatar" = .found (.errand (.setFor "1")) ∧
    exchange guestSettings 0 oneMember (putPicture [0x41]) =
      ⟨(saveAvatar guestSettings oneMember 1 [0x41]).1, some 1,
        (saveAvatar guestSettings oneMember 1 [0x41]).2⟩ := by
  have hdecode : Form.decodePicture "QUJD===" = .ok [0x41, 0x42, 0x43] := by
    have hbytes : Bytes.ofString "QUJD===" = [0x51, 0x55, 0x4A, 0x44, 0x3D, 0x3D, 0x3D] := by
      rw [Bytes.ofString_eq_flatMap]
      decide
    have hascii : "QUJD===".all (fun c : Char => decide (c.toNat < 128)) = true := by
      rw [String.all_bool_eq]
      decide
    rw [Form.decodePicture, if_pos hascii, hbytes]
    rfl
  have htwins : Twins guestSettings 0 oneMember (putPicture [0x41]) (postPicture [0x41])
      { id := 1, name := "ada" } "1" 1 [0x41] := twins_picture (List.cons_ne_nil _ _) 5242880
  have hputs : (putPicture [0x41]).Puts "1" 1 (pictureText [0x41]) :=
    ⟨htwins.number, htwins.text, pictureText_ne_empty htwins.some_data⟩
  have hsmall : Form.decodedSize (pictureText [0x41]) ≤ guestSettings.maxUpload := by
    rw [decodedSize_pictureText]
    decide
  obtain ⟨hsize, -, hends, -⟩ := size_check_bounds
  refine ⟨⟨hdecode, hsize _ _ hdecode⟩, route_putPicture, (hends _ _ _ _ _ _ route_putPicture).2 ?_⟩
  exact .handedOn hputs htwins.put_caller htwins.may hsmall (decodePicture_pictureText _) (by decide)

end Portrait.Web
