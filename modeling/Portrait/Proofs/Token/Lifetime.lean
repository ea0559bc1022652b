import Portrait.Proofs.Json.RoundTrip
import Portrait.Proofs.Text.Ascii
import Portrait.Proofs.Text.Base64
import Portrait.Text.CodePoints
import Portrait.Token.Verify

/-!
# How long tokens live

A token that is issued is good from the second of its issue on, until its lifetime is over.

* `ofBytes?_sealed`, `readObject_header`, `readObject_claims` — the parts of an issued token are read
  as what they were written for.
* `claimsHold_claims` — when the claims of an issued token hold.
* `Authority.seconds` — the lifetime in seconds: that which was asked for, unless it is zero.
* `exists_issue_iff`, `verify_issued` — when tokens are issued, and when an issued token is good.

Main statement: `issued_until_expiry`. A lifetime of no seconds is not honoured
(`zero_seconds_default`).
-/

set_option autoImplicit false

namespace Portrait.Token

/-! ## Parts -/

theorem splitFirst?_append {before : Bytes} (h : point ∉ before) (after : Bytes) :
    splitFirst? (before ++ point :: after) = some (before, after) := by
  have hne : ∀ b ∈ before, decide (b ≠ point) = true := by
    intro b hb
    rw [decide_eq_true_eq]
    rintro rfl
    exact h hb
  rw [splitFirst?, List.dropWhile_append_of_pos hne, List.takeWhile_append_of_pos hne]
  simp

theorem splitLast?_append {after : Bytes} (h : point ∉ after) (before : Bytes) :
    splitLast? (before ++ point :: after) = some (before, after) := by
  have hreverse : (before ++ point :: after).reverse =
      after.reverse ++ point :: before.reverse := by simp
  rw [splitLast?, hreverse, splitFirst?_append (by simpa using h)]
  simp

theorem point_notMem_encodeUrl (bs : Bytes) : point ∉ Base64.encodeUrl bs := by
  intro hpoint
  have hsymbol : ∀ v < 64, point ≠ Base64.symbol Base64.url v := by decide
  rcases Base64.mem_groups hpoint with ⟨v, hv, heq⟩ | hpad
  · exact hsymbol v hv heq
  · cases hpad

section Sealed

variable {header claims signature : Bytes}

/-- A token is written in visible characters. -/
theorem visible_of_mem_sealed {b : UInt8}
    (h : b ∈ (Base64.encodeUrl header ++ point :: Base64.encodeUrl claims) ++
      point :: Base64.encodeUrl signature) : 0x20 < b ∧ b < 0x7F := by
  have hpoint : 0x20 < point ∧ point < 0x7F := by decide
  rcases List.mem_append.1 h with hsigned | hrest
  · rcases List.mem_append.1 hsigned with hheader | hclaims
    · exact Base64.visible_of_mem_encodeUrl hheader
    · rcases List.mem_cons.1 hclaims with rfl | hclaims
      · exact hpoint
      · exact Base64.visible_of_mem_encodeUrl hclaims
  · rcases List.mem_cons.1 hrest with rfl | hsignature
    · exact hpoint
    · exact Base64.visible_of_mem_encodeUrl hsignature

/-- A token is taken apart into what it was put together from. -/
theorem ofBytes?_sealed (header claims signature : Bytes) :
    Parts.ofBytes? (Bytes.ofString
        (sealed (Base64.encodeUrl header ++ point :: Base64.encodeUrl claims) signature)) =
      some ⟨Base64.encodeUrl header, Base64.encodeUrl claims, Base64.encodeUrl signature,
        Base64.encodeUrl header ++ point :: Base64.encodeUrl claims⟩ := by
  have hascii : ∀ b ∈ (Base64.encodeUrl header ++ point :: Base64.encodeUrl claims) ++
      point :: Base64.encodeUrl signature, b < 0x80 :=
    fun b hb => UInt8.lt_trans (visible_of_mem_sealed hb).2 (by decide)
  rw [sealed, Bytes.ofString_ofAscii hascii, Parts.ofBytes?,
    splitLast?_append (point_notMem_encodeUrl signature)]
  dsimp only
  rw [splitFirst?_append (point_notMem_encodeUrl header)]

end Sealed

/-- What is signed in a token. -/
def signedPart (header claims : Json) : Bytes := part header ++ point :: part claims

/-! ## Header and claims -/

variable {authority : Authority} {nesting : Nesting} {a : Algorithm}
  {member issued expires now : Int}

theorem readObject_print {members : List (CodePoints × Json)} (h : Json.IsFlat members) :
    readObject nesting ((Json.print (.object members)).map UInt8.ofNat) = .ok (some (.object members)) := by
  rw [readObject, Json.ofBytes_print h]

theorem readObject_header (a : Algorithm) :
    readObject nesting ((header a).print.map UInt8.ofNat) = .ok (some (header a)) := by
  apply readObject_print
  have hplain : ∀ a : Algorithm, ∀ c ∈ CodePoints.ofString a.name, Json.IsPlain c := by
    intro a
    cases a <;> decide
  have halg : ∀ c ∈ CodePoints.ofString "alg", Json.IsPlain c := by decide
  have htyp : ∀ c ∈ CodePoints.ofString "typ", Json.IsPlain c := by decide
  intro m hm
  simp only [List.map_cons, List.map_nil, List.mem_cons, List.not_mem_nil, or_false] at hm
  rcases hm with rfl | rfl
  · exact ⟨halg, .text (hplain a)⟩
  · exact ⟨htyp, .text (by decide)⟩

/-- The header of a token is accepted by those who sign in the same way. -/
theorem headerHolds_header (a : Algorithm) : headerHolds (header a) a.name = true := by
  cases a <;> decide

theorem plain_number {n : Int} {c : Nat} (h : c ∈ CodePoints.ofString (toString n)) :
    Json.IsPlain c := by
  rw [Text.ofString_toString] at h
  rcases List.mem_append.1 h with hsign | hdigit
  · split at hsign
    · rw [List.mem_singleton.1 hsign]
      decide
    · cases hsign
  · have := Text.digit_of_mem_decimal hdigit
    simp only [Json.IsPlain]
    omega

theorem readObject_claims (member : Int) (hissued : issued.natAbs < 10 ^ Text.Integer.maxDigits)
    (hexpires : expires.natAbs < 10 ^ Text.Integer.maxDigits) :
    readObject nesting ((claims member issued expires).print.map UInt8.ofNat) =
      .ok (some (claims member issued expires)) := by
  apply readObject_print
  have hname : ∀ name ∈ ["sub", "iat", "exp", "type"], ∀ c ∈ CodePoints.ofString name,
      Json.IsPlain c := by decide
  intro m hm
  simp only [List.map_cons, List.map_nil, List.mem_cons, List.not_mem_nil, or_false] at hm
  rcases hm with rfl | rfl | rfl | rfl
  · exact ⟨hname "sub" (by decide), .text fun _ => plain_number⟩
  · exact ⟨hname "iat" (by decide), .whole hissued⟩
  · exact ⟨hname "exp" (by decide), .whole hexpires⟩
  · exact ⟨hname "type" (by decide), .text (by decide)⟩

theorem member?_claims (member issued expires : Int) (name : String) :
    member? (claims member issued expires) name =
      ([("type", .ofString kind), ("exp", .whole expires), ("iat", .whole issued),
        ("sub", .ofString (toString member))].find? fun m => m.1 == name).map Prod.snd :=
  Json.get?_ofMembers _ name

/-- The claims of a token hold from its issue on until it expires. -/
theorem claimsHold_claims (member issued expires now : Int) :
    claimsHold (claims member issued expires) now =
      (decide (issued ≤ now) && decide (now < expires)) := by
  simp [claimsHold, hasClaim, claimIs, isTextIfPresent, member?_claims, wholeOf?, Json.isNull,
    Json.ofString]

/-- The claims of a token name its member. -/
theorem subject?_claims (issued expires : Int)
    (h : member.natAbs < 10 ^ Text.Integer.maxDigits) :
    subject? (claims member issued expires) = some member := by
  have htype : member? (claims member issued expires) "type" = some (.ofString kind) := by
    simp [member?_claims]
  have hsub : member? (claims member issued expires) "sub" = some (.ofString (toString member)) := by
    simp [member?_claims]
  rw [subject?, htype, hsub]
  exact (if_pos rfl).trans (Text.Integer.parse?_toString h)

/-! ## Times -/

/-- The seconds that a token lives that is issued for `d` seconds. -/
def Authority.seconds (authority : Authority) (d : Int) : Int :=
  if d = 0 then authority.lifetimeMinutes * 60 else d

/-- The lifetime of a token that is issued for `d` seconds. -/
theorem lifetime_seconds (authority : Authority) (d : Int) :
    authority.lifetime (some (.ofUnits d .seconds)) = authority.seconds d * 1000000 := by
  have hminutes : Duration.ofUnits authority.lifetimeMinutes .minutes =
      authority.lifetimeMinutes * 60 * 1000000 := by
    rw [Int.mul_assoc]
    rfl
  have hseconds : Duration.ofUnits d .seconds = d * 1000000 := rfl
  have hzero : d * 1000000 = 0 ↔ d = 0 := by omega
  simp only [Authority.lifetime, Authority.seconds, hminutes, hseconds, hzero]
  split <;> rfl

theorem hasDate_iff :
    Calendar.hasDate (now * 1000000) = true ↔ -62135596800 ≤ now ∧ now < 253402300800 := by
  rw [Calendar.hasDate, Bool.and_eq_true, decide_eq_true_eq, decide_eq_true_eq]
  simp only [Calendar.first, Calendar.limit]
  omega

/-- Moments with a date are less than ten thousand years apart, which is never too long a span. -/
theorem isRepresentable_of_hasDate {d : Int} (h : Calendar.hasDate (now * 1000000) = true)
    (h' : Calendar.hasDate ((now + d) * 1000000) = true) :
    Duration.isRepresentable (d * 1000000) = true := by
  rw [hasDate_iff] at h h'
  have hday : (0 : Int) ≤ TimeUnit.days.length := by decide
  rw [Duration.isRepresentable, Bool.and_eq_true, decide_eq_true_eq, decide_eq_true_eq,
    Int.fdiv_eq_ediv_of_nonneg _ hday]
  simp only [Duration.maxDays, TimeUnit.length]
  omega

theorem expiry?_seconds {d : Int} (h : Calendar.hasDate (now * 1000000) = true) :
    expiry? now (d * 1000000) =
      if Calendar.hasDate ((now + d) * 1000000) then some (now + d) else none := by
  have hsum : now * 1000000 + d * 1000000 = (now + d) * 1000000 := by omega
  have hquotient : Int.fdiv ((now + d) * 1000000) 1000000 = now + d :=
    Int.mul_fdiv_cancel _ (by decide)
  simp only [expiry?, hsum, hquotient]
  by_cases hdate : Calendar.hasDate ((now + d) * 1000000) = true
  · rw [if_pos hdate, if_pos]
    rw [isRepresentable_of_hasDate h hdate, hdate]
    rfl
  · rw [if_neg hdate, if_neg]
    rw [Bool.and_eq_true]
    exact fun hboth => hdate hboth.2

/-- Times with a date are written with few digits. -/
theorem natAbs_lt_of_hasDate (h : Calendar.hasDate (now * 1000000) = true) :
    now.natAbs < 10 ^ Text.Integer.maxDigits := by
  rw [hasDate_iff] at h
  have hpower : 10 ^ 12 ≤ 10 ^ Text.Integer.maxDigits :=
    Nat.pow_le_pow_right (by decide) (by decide)
  have hbound : now.natAbs < 10 ^ 12 := by omega
  exact Nat.lt_of_lt_of_le hbound hpower

/-! ## Signatures -/

/-- Does a way of signing accept the secret? Without a signature there must be none. -/
def Algorithm.accepts (a : Algorithm) (secret : String) : Bool :=
  if a.hash?.isSome then !isKeyFile (Bytes.ofString secret) else secret = ""

/-- Whether something is signed depends on the secret alone. -/
theorem isSome_sign (a : Algorithm) (secret : String) (message : Bytes) :
    (a.sign secret message).isSome = a.accepts secret := by
  cases hhash : a.hash? with
  | none =>
    simp only [Algorithm.sign, Algorithm.accepts, hhash]
    by_cases hsecret : secret = "" <;> simp [hsecret]
  | some v =>
    simp only [Algorithm.sign, Algorithm.accepts, hhash]
    by_cases hkey : isKeyFile (Bytes.ofString secret) = true <;> simp [hkey]

/-- A signature is known again, unless it is that of an unsigned message. -/
theorem verify_sign {secret : String} {message signature : Bytes}
    (h : a.sign secret message = some signature) :
    a.verify secret message signature = some a.hash?.isSome := by
  rw [Algorithm.verify, h, Option.map_some, beq_self_eq_true, Bool.and_true]

theorem isSome_hash? (a : Algorithm) : a.hash?.isSome = true ↔ a.name ≠ "none" := by
  cases a <;> decide

theorem name_ofName? {name : String} (h : Algorithm.ofName? name = some a) : a.name = name := by
  simpa using List.find?_some h

/-- Can an authority issue tokens at all? -/
def Authority.canSign (authority : Authority) : Bool :=
  (Algorithm.ofName? authority.algorithm).any fun a => a.accepts authority.secret

/-! ## Issue and verification -/

variable {d : Int} {token : String}

theorem exists_sealed_of_issue {requested : Option Duration}
    (h : issue authority issued member requested = .ok token) :
    ∃ header claims signature, token = sealed (signedPart header claims) signature := by
  rw [issue] at h
  split at h
  · cases h
  split at h
  · cases h
  dsimp only at h
  split at h
  · cases h
  · exact ⟨_, _, _, (Except.ok.inj h).symm⟩

/-- There are no blanks in tokens. -/
theorem isBlank_of_mem_issued {requested : Option Duration}
    (h : issue authority issued member requested = .ok token) :
    ∀ c ∈ token.toList, Text.isBlank c.toNat = false := by
  obtain ⟨header, claims, signature, rfl⟩ := exists_sealed_of_issue h
  have hvisible : ∀ n < 0x7F, 0x20 < n → Text.isBlank (Char.ofNat n).toNat = false := by decide
  intro c hc
  rw [sealed, String.toList_ofList] at hc
  obtain ⟨b, hb, rfl⟩ := List.mem_map.1 hc
  obtain ⟨hlow, hhigh⟩ := visible_of_mem_sealed hb
  exact hvisible b.toNat (UInt8.lt_iff_toNat_lt.1 hhigh) (UInt8.lt_iff_toNat_lt.1 hlow)

theorem ne_empty_of_issued {requested : Option Duration}
    (h : issue authority issued member requested = .ok token) : token ≠ "" := by
  obtain ⟨header, claims, signature, rfl⟩ := exists_sealed_of_issue h
  intro hempty
  have hnil := congrArg String.toList hempty
  rw [sealed, String.toList_ofList] at hnil
  simp at hnil

/-- What a token is that is issued for some seconds. -/
theorem issue_eq_ok_iff (hissued : Calendar.hasDate (issued * 1000000) = true) :
    issue authority issued member (some (.ofUnits d .seconds)) = .ok token ↔
      Calendar.hasDate ((issued + authority.seconds d) * 1000000) = true ∧
        ∃ a signature, Algorithm.ofName? authority.algorithm = some a ∧
          a.sign authority.secret
              (signedPart (header a) (claims member issued (issued + authority.seconds d))) =
            some signature ∧
          token = sealed
            (signedPart (header a) (claims member issued (issued + authority.seconds d)))
            signature := by
  rw [issue, lifetime_seconds, expiry?_seconds hissued]
  by_cases hdate : Calendar.hasDate ((issued + authority.seconds d) * 1000000) = true
  · rw [if_pos hdate]
    simp only [hdate, true_and]
    cases Algorithm.ofName? authority.algorithm with
    | none => simp
    | some a =>
      simp only [Option.some.injEq, exists_and_left, exists_eq_left', signedPart]
      cases a.sign authority.secret _ with
      | none => simp
      | some signature => simp [eq_comm]
  · rw [if_neg hdate]
    simp [hdate]

/-- Tokens are issued as long as the time of their expiry has a date and the authority can sign. -/
theorem exists_issue_iff (hissued : Calendar.hasDate (issued * 1000000) = true) :
    (∃ token, issue authority issued member (some (.ofUnits d .seconds)) = .ok token) ↔
      Calendar.hasDate ((issued + authority.seconds d) * 1000000) = true ∧
        authority.canSign = true := by
  simp only [issue_eq_ok_iff hissued, Authority.canSign, Option.any_eq_true]
  constructor
  · rintro ⟨token, hdate, a, signature, hname, hsign, -⟩
    refine ⟨hdate, a, hname, ?_⟩
    rw [← isSome_sign, hsign]
    rfl
  · rintro ⟨hdate, a, hname, haccepts⟩
    rw [← isSome_sign, Option.isSome_iff_exists] at haccepts
    obtain ⟨signature, hsign⟩ := haccepts
    exact ⟨_, hdate, a, signature, hname, hsign, rfl⟩

/-- A token is judged by its claims if it was signed by the same authority. -/
theorem verify_sealed {signature : Bytes} {expires : Int}
    (hissued : issued.natAbs < 10 ^ Text.Integer.maxDigits)
    (hexpires : expires.natAbs < 10 ^ Text.Integer.maxDigits)
    (hname : Algorithm.ofName? authority.algorithm = some a)
    (hsign : a.sign authority.secret (signedPart (header a) (claims member issued expires)) =
      some signature) :
    verify authority now (sealed (signedPart (header a) (claims member issued expires)) signature)
        nesting =
      .ok (if a.hash?.isSome ∧ claimsHold (claims member issued expires) now
        then subject? (claims member issued expires) else none) := by
  have hheader : headerHolds (header a) authority.algorithm = true := by
    rw [← name_ofName? hname]
    exact headerHolds_header a
  have hjudge : judge nesting ((claims member issued expires).print.map UInt8.ofNat) now =
      .ok (if claimsHold (claims member issued expires) now
        then subject? (claims member issued expires) else none) := by
    rw [judge, readObject_claims member hissued hexpires]
  simp only [signedPart, part] at hsign ⊢
  simp only [verify, ofBytes?_sealed, Base64.decodeUrl?_encodeUrl, readObject_header]
  simp only [judgeSigned, hheader, if_true, hname, verify_sign hsign]
  cases a.hash?.isSome with
  | false => simp
  | true => simpa using hjudge

/-- An issued token stands for its member from its issue on, as long as it lives. -/
theorem verify_issued (hmember : member.natAbs < 10 ^ Text.Integer.maxDigits)
    (hissued : Calendar.hasDate (issued * 1000000) = true)
    (h : issue authority issued member (some (.ofUnits d .seconds)) = .ok token) (now : Int)
    (nesting : Nesting) :
    verify authority now token nesting =
      .ok (if authority.algorithm ≠ "none" ∧ issued ≤ now ∧ now < issued + authority.seconds d
        then some member else none) := by
  obtain ⟨hdate, a, signature, hname, hsign, rfl⟩ := (issue_eq_ok_iff hissued).1 h
  rw [verify_sealed (natAbs_lt_of_hasDate hissued) (natAbs_lt_of_hasDate hdate) hname hsign,
    claimsHold_claims, subject?_claims _ _ hmember]
  simp only [isSome_hash?, name_ofName? hname, Bool.and_eq_true, decide_eq_true_eq]

/-- **Tokens live exactly as long as `seconds` says.** A token is issued for a number of seconds
whenever the time of its expiry has a date and the authority can sign. It stands for its member from
the second of its issue on until that of its expiry, and at no other time, however little the reader
may nest; unsigned tokens stand for nobody. -/
theorem issued_until_expiry (authority : Authority) (d : Int)
    (hmember : member.natAbs < 10 ^ Text.Integer.maxDigits)
    (hissued : Calendar.hasDate (issued * 1000000) = true) :
    ((∃ token, issue authority issued member (some (.ofUnits d .seconds)) = .ok token) ↔
      Calendar.hasDate ((issued + authority.seconds d) * 1000000) = true ∧
        authority.canSign = true) ∧
    ∀ token, issue authority issued member (some (.ofUnits d .seconds)) = .ok token →
      ∀ now nesting, verify authority now token nesting =
        .ok (if authority.algorithm ≠ "none" ∧ issued ≤ now ∧ now < issued + authority.seconds d
          then some member else none) :=
  ⟨exists_issue_iff hissued, fun _ h now nesting => verify_issued hmember hissued h now nesting⟩

/-- An hour for member -7. -/
theorem hour_until_expiry :
    ((-7 : Int).natAbs < 10 ^ Text.Integer.maxDigits ∧
      Calendar.hasDate (1700000000 * 1000000) = true) ∧
    ∃ token, issue ⟨"HS256", "s", 1⟩ 1700000000 (-7) (some (.ofUnits 3600 .seconds)) = .ok token ∧
      verify ⟨"HS256", "s", 1⟩ 1700003599 token = .ok (some (-7)) ∧
      verify ⟨"HS256", "s", 1⟩ 1700003600 token = .ok none := by
  have hmember : (-7 : Int).natAbs < 10 ^ Text.Integer.maxDigits :=
    Nat.lt_of_lt_of_le (by decide : (-7 : Int).natAbs < 10 ^ 1)
      (Nat.pow_le_pow_right (by decide) (by decide))
  have hissued : Calendar.hasDate (1700000000 * 1000000) = true := by decide
  have hall := issued_until_expiry ⟨"HS256", "s", 1⟩ 3600 hmember hissued
  obtain ⟨token, htoken⟩ := hall.1.2 ⟨by decide, by decide +kernel⟩
  exact ⟨⟨hmember, hissued⟩, token, htoken, hall.2 token htoken _ _, hall.2 token htoken _ _⟩

/-- A token that is issued for zero seconds is good for the lifetime of the authority. -/
theorem zero_seconds_default :
    ∃ token, issue ⟨"HS256", "s", 60⟩ 1700000000 1 (some (.ofUnits 0 .seconds)) = .ok token ∧
      ¬ verify ⟨"HS256", "s", 60⟩ 1700000000 token =
        .ok (if (1700000000 : Int) ≤ 1700000000 ∧ (1700000000 : Int) < 1700000000 + 0
          then some 1 else none) := by
  have hmember : (1 : Int).natAbs < 10 ^ Text.Integer.maxDigits :=
    Nat.lt_of_lt_of_le (by decide : (1 : Int).natAbs < 10 ^ 1)
      (Nat.pow_le_pow_right (by decide) (by decide))
  have hissued : Calendar.hasDate (1700000000 * 1000000) = true := by decide
  have hexists : ∃ token, issue ⟨"HS256", "s", 60⟩ 1700000000 1 (some (.ofUnits 0 .seconds)) =
      .ok token := (exists_issue_iff hissued).2 ⟨by decide, by decide +kernel⟩
  obtain ⟨token, htoken⟩ := hexists
  refine ⟨token, htoken, ?_⟩
  rw [verify_issued hmember hissued htoken]
  decide

end Portrait.Token
