import Portrait.Proofs.Token.Lifetime
import Portrait.Proofs.Web.Permission

/-!
# Who is let in

A request is that of a known caller exactly if it bears a good token of a member who is there and not
blocked.

* `authenticate_eq_ok_iff` — the check of the sender against `SentBy`.
* `lookUp_of_authenticate` — whoever is let in has a row.
* `authenticate_of_issue` — a token that was issued for a member lets the member in.
* `authenticate_ticket` — a token with which results about callers can be tried out.
-/

set_option autoImplicit false

namespace Portrait.Web

section Callers

variable {settings : Settings} {now : Int} {roster : Roster} {r : Request} {caller : Member}

theorem lookUp_eq_ok_iff {id : Int} :
    Avatar.Records.lookUp roster id = .ok caller ↔
      Roster.holdsId id = true ∧ roster.find? id = some caller := by
  unfold Avatar.Records.lookUp
  split
  · rename_i hholds
    cases hrow : roster.find? id with
    | none => simp
    | some m => simp [hholds]
  · rename_i hholds
    simp [hholds]

theorem callerRow_eq_ok_iff {id : Int} :
    callerRow roster id = .ok caller ↔
      Avatar.Records.lookUp roster id = .ok caller ∧ caller.isBlocked = false := by
  rw [lookUp_eq_ok_iff, callerRow]
  split
  · rename_i hholds
    cases hrow : roster.find? id with
    | none => simp
    | some m =>
      cases hblocked : m.isBlocked with
      | false =>
        simp only [hblocked, Bool.false_eq_true, if_false, Except.ok.injEq, hholds, true_and,
          Option.some.injEq]
        constructor
        · rintro rfl
          exact ⟨rfl, hblocked⟩
        · exact And.left
      | true =>
        simp only [hblocked, if_true, reduceCtorEq, hholds, true_and, Option.some.injEq, false_iff,
          not_and]
        rintro rfl
        simp [hblocked]
  · rename_i hholds
    simp [hholds]

/-- A caller is let in who has sent the request and has a number that the table can hold. -/
theorem authenticate_eq_ok_iff :
    authenticate (.ofSettings settings) now roster r = .ok caller ↔
      SentBy settings now roster r caller ∧ Roster.holdsId caller.id = true := by
  constructor
  · intro h
    refine ⟨sentBy_of_authenticate h, ?_⟩
    unfold authenticate at h
    split at h
    · cases h
    split at h
    · cases h
    · cases h
    obtain ⟨hholds, hrow⟩ := lookUp_eq_ok_iff.1 (callerRow_eq_ok_iff.1 h).1
    rw [Roster.id_of_find? hrow]
    exact hholds
  · rintro ⟨⟨⟨token, htoken, hverify⟩, hrow, hfree⟩, hholds⟩
    simp only [authenticate, htoken, hverify]
    exact callerRow_eq_ok_iff.2 ⟨lookUp_eq_ok_iff.2 ⟨hholds, hrow⟩, hfree⟩

theorem lookUp_of_authenticate
    (h : authenticate (.ofSettings settings) now roster r = .ok caller) :
    Avatar.Records.lookUp roster caller.id = .ok caller := by
  obtain ⟨hsent, hholds⟩ := authenticate_eq_ok_iff.1 h
  exact lookUp_eq_ok_iff.2 ⟨hholds, hsent.row⟩

/-! ## Tokens that are borne -/

theorem strip_eq_self {s : String} (h : ∀ c ∈ s.toList, Text.isBlank c.toNat = false) :
    Text.strip s = s := by
  have hfront : ∀ cs : List Char, (∀ c ∈ cs, Text.isBlank c.toNat = false) →
      cs.dropWhile (fun c => Text.isBlank c.toNat) = cs := by
    intro cs hcs
    cases cs with
    | nil => rfl
    | cons c cs =>
      rw [List.dropWhile_cons_of_neg]
      simp [hcs c (List.mem_cons_self ..)]
  have hback : ∀ c ∈ s.toList.reverse, Text.isBlank c.toNat = false := by
    intro c hc
    exact h c (List.mem_reverse.1 hc)
  rw [Text.strip, Text.trim, hfront _ h, hfront _ hback, List.reverse_reverse, String.ofList_toList]

/-- A token without blanks is borne after the name of the scheme. -/
theorem bearer?_append {token : String} (h : ∀ c ∈ token.toList, Text.isBlank c.toNat = false)
    (hne : token ≠ "") : bearer? ("Bearer " ++ token) = some token := by
  have hheader : ("Bearer " ++ token).toList =
      'B' :: 'e' :: 'a' :: 'r' :: 'e' :: 'r' :: ' ' :: token.toList := String.toList_append
  have hscheme : ("Bearer " ++ token).toList.takeWhile (· ≠ ' ') = "Bearer".toList := by
    rw [hheader]
    rfl
  have htoken : ("Bearer " ++ token).toList.drop ("Bearer".toList.length + 1) = token.toList := by
    rw [hheader]
    rfl
  have hlower : lower "Bearer" = bearerScheme := by decide +kernel
  rw [bearer?, hscheme, htoken, String.ofList_toList, String.ofList_toList, strip_eq_self h]
  exact if_pos ⟨hlower, hne⟩

/-- **A token lets its member in.** As long as it lives, a request that bears it is that of the member
for whom it was issued, if there is such a member who is not blocked. -/
theorem authenticate_of_issue {issued d : Int} {token : String}
    (hissued : Calendar.hasDate (issued * 1000000) = true)
    (htoken : Token.issue (.ofSettings settings) issued caller.id (some (.ofUnits d .seconds)) =
      .ok token)
    (hsigned : settings.algorithm ≠ "none")
    (halive : issued ≤ now ∧ now < issued + (Token.Authority.ofSettings settings).seconds d)
    (hrow : Avatar.Records.lookUp roster caller.id = .ok caller) (hfree : caller.isBlocked = false)
    (hheader : r.header? "authorization" = some ("Bearer " ++ token)) :
    authenticate (.ofSettings settings) now roster r = .ok caller := by
  obtain ⟨hholds, hfind⟩ := lookUp_eq_ok_iff.1 hrow
  have hborne : r.token? = some token := by
    rw [Request.token?, hheader, Option.bind_some,
      bearer?_append (Token.isBlank_of_mem_issued htoken) (Token.ne_empty_of_issued htoken)]
  have hnumber : caller.id.natAbs < 10 ^ Text.Integer.maxDigits := by
    simp only [Roster.holdsId, Bool.and_eq_true, decide_eq_true_eq] at hholds
    have hpower : 10 ^ 19 ≤ 10 ^ Text.Integer.maxDigits :=
      Nat.pow_le_pow_right (by decide) (by decide)
    have hbound : caller.id.natAbs < 10 ^ 19 := by omega
    exact Nat.lt_of_lt_of_le hbound hpower
  rw [authenticate_eq_ok_iff]
  refine ⟨⟨⟨token, hborne, ?_⟩, hfind, hfree⟩, hholds⟩
  rw [Token.verify_issued hnumber hissued htoken now r.nesting, if_pos ⟨hsigned, halive⟩]

end Callers

/-! ## A guest -/

/-- The settings of a service that has a secret. -/
def guestSettings : Settings := { secretKey := "s" }

/-- A token of member 1, who comes in the first second and stays an hour. -/
def ticket : String :=
  match Token.issue (.ofSettings guestSettings) 0 1 (some (.ofUnits 3600 .seconds)) with
  | .ok token => token
  | .error _ => ""

theorem issue_ticket :
    Token.issue (.ofSettings guestSettings) 0 1 (some (.ofUnits 3600 .seconds)) = .ok ticket := by
  have hexists : ∃ token, Token.issue (.ofSettings guestSettings) 0 1
      (some (.ofUnits 3600 .seconds)) = .ok token :=
    (Token.exists_issue_iff (by decide)).2 ⟨by decide, by decide +kernel⟩
  obtain ⟨token, htoken⟩ := hexists
  rw [ticket, htoken]

/-- The headers of a request that bears the ticket. -/
def ticketHeaders : List (String × String) := [("authorization", "Bearer " ++ ticket)]

theorem header?_ticketHeaders {r : Request} (h : r.headers = ticketHeaders) (name : String) :
    r.header? name = if "authorization" = name then some ("Bearer " ++ ticket) else none := by
  have hlower : lower "authorization" = "authorization" := by decide +kernel
  simp only [Request.header?, h, ticketHeaders, List.find?_cons, hlower, List.find?_nil]
  by_cases hname : "authorization" = name
  · rw [if_pos hname, beq_iff_eq.2 hname]
    rfl
  · rw [if_neg hname, beq_false_of_ne hname]
    rfl

/-- Whoever bears the ticket is let in as member 1. -/
theorem authenticate_ticket {settings : Settings} {roster : Roster} {r : Request} {guest : Member}
    (hsettings : Token.Authority.ofSettings settings = .ofSettings guestSettings)
    (hheaders : r.headers = ticketHeaders) (hrow : roster.find? 1 = some guest)
    (hfree : guest.isBlocked = false) : authenticate (.ofSettings settings) 0 roster r = .ok guest := by
  have hid : guest.id = 1 := Roster.id_of_find? hrow
  have hlookUp : Avatar.Records.lookUp roster guest.id = .ok guest := by
    rw [hid]
    exact lookUp_eq_ok_iff.2 ⟨by decide, hrow⟩
  have htoken : Token.issue (.ofSettings guestSettings) 0 guest.id (some (.ofUnits 3600 .seconds)) =
      .ok ticket := by
    rw [hid]
    exact issue_ticket
  have hheader : r.header? "authorization" = some ("Bearer " ++ ticket) := by
    rw [header?_ticketHeaders hheaders, if_pos rfl]
  rw [hsettings]
  exact authenticate_of_issue (by decide) htoken (by decide) (by decide) hlookUp hfree hheader

/-- A value is taken for what it is unless another type is claimed. -/
theorem sent_of_value {r : Request} {members : List (CodePoints × Json)}
    (hbody : r.body = .value (.object members)) (htype : r.header? "content-type" = none) :
    r.sent = .ok (.value (.object members)) := by
  have hjson : r.isJson = true := by
    rw [Request.isJson, Request.type?, htype, hbody]
  rw [Request.sent, hbody]
  simp only [hjson, if_true]
  rfl

end Portrait.Web
