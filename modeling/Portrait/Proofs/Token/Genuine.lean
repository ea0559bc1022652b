import Mathlib.Data.List.TakeWhile
import Portrait.Proofs.Json.Depth
import Portrait.Proofs.Token.Lifetime

/-!
# Whom a token stands for

A token stands for a member only if it is genuine: signed with the secret, current, and of the right
kind. All other texts stand for nobody. There are two reasons why a token may not be judged at all: the
secret is refused, or reading is given up.

* `Parted` — a text in three parts with points between them.
* `Says` — a part of a token is an object, as it is written there.
* `Grants`, `Genuine` — claims that stand for a member, and tokens that do.
* `IsDeep`, `Readable` — a part with more brackets than values may be nested, and a token that can be
  read to the end all the same.
* `Judged` — everything that may come of a token.

Main statements: `verify_genuine`; no token is judged with the text of a key file as secret
(`verify_keyFile`), and one of nothing but brackets need not be (`verify_brackets`).
-/

set_option autoImplicit false

namespace Portrait.Token

/-! ## Texts with points -/

/-- A text in three parts with points between them: those around the first point and after the last
one. -/
structure Parted (token header claims signature : String) : Prop where
  eq : token = header ++ "." ++ claims ++ "." ++ signature
  header : '.' ∉ header.toList
  signature : '.' ∉ signature.toList

section Texts

variable {token : String} {bs : Bytes} {parts : Parts}

theorem ofString_point (before after : String) :
    Bytes.ofString (before ++ "." ++ after) =
      Bytes.ofString before ++ point :: Bytes.ofString after := by
  have hpoint : Bytes.ofString "." = [point] := by
    rw [Bytes.ofString_eq_flatMap]
    rfl
  rw [Bytes.ofString_append, Bytes.ofString_append, hpoint, List.append_assoc,
    List.singleton_append]

theorem toList_of_point (h : point ∈ Bytes.ofString token) : '.' ∈ token.toList :=
  Bytes.mem_toList_of_mem_ofString h (by decide)

theorem point_notMem_ofString (h : '.' ∉ token.toList) : point ∉ Bytes.ofString token :=
  fun hpoint => h (toList_of_point hpoint)

/-- A text with a point is in two parts, and the first has no point. -/
theorem exists_first (h : '.' ∈ token.toList) :
    ∃ before after, token = before ++ "." ++ after ∧ '.' ∉ before.toList := by
  obtain ⟨before, after, heq, hbefore⟩ := List.eq_append_cons_of_mem h
  refine ⟨String.ofList before, String.ofList after, ?_, ?_⟩
  · apply String.toList_inj.1
    simp [heq]
  · rwa [String.toList_ofList]

/-- A text with a point is in two parts, and the last has no point. -/
theorem exists_last (h : '.' ∈ token.toList) :
    ∃ before after, token = before ++ "." ++ after ∧ '.' ∉ after.toList := by
  obtain ⟨after, before, heq, hafter⟩ := List.eq_append_cons_of_mem (List.mem_reverse.2 h)
  refine ⟨String.ofList before.reverse, String.ofList after.reverse, ?_, ?_⟩
  · apply String.toList_inj.1
    have hback := congrArg List.reverse heq
    rw [List.reverse_reverse] at hback
    simp [hback]
  · rwa [String.toList_ofList, List.mem_reverse]

theorem point_mem_of_splitFirst? {split : Bytes × Bytes} (h : splitFirst? bs = some split) :
    point ∈ bs := by
  by_contra hpoint
  have hall : ∀ b ∈ bs, decide (b ≠ point) = true := by
    intro b hb
    rw [decide_eq_true_eq]
    rintro rfl
    exact hpoint hb
  rw [splitFirst?, List.dropWhile_eq_nil_iff.2 hall] at h
  cases h

theorem point_mem_of_splitLast? {split : Bytes × Bytes} (h : splitLast? bs = some split) :
    point ∈ bs := by
  rw [splitLast?] at h
  split at h
  · cases h
  · rename_i hsplit
    exact List.mem_reverse.1 (point_mem_of_splitFirst? hsplit)

/-- The parts of a token are those of its text. -/
theorem parted_of_ofBytes? (h : Parts.ofBytes? (Bytes.ofString token) = some parts) :
    ∃ header claims signature, Parted token header claims signature ∧
      parts = ⟨Bytes.ofString header, Bytes.ofString claims, Bytes.ofString signature,
        Bytes.ofString (header ++ "." ++ claims)⟩ := by
  rw [Parts.ofBytes?] at h
  split at h
  · cases h
  rename_i signed signature hlast
  split at h
  · cases h
  rename_i header claims hfirst
  cases h
  obtain ⟨signedText, signatureText, rfl, hsignature⟩ :=
    exists_last (toList_of_point (point_mem_of_splitLast? hlast))
  rw [ofString_point, splitLast?_append (point_notMem_ofString hsignature)] at hlast
  cases hlast
  obtain ⟨headerText, claimsText, rfl, hheader⟩ :=
    exists_first (toList_of_point (point_mem_of_splitFirst? hfirst))
  have hparts := hfirst
  rw [ofString_point, splitFirst?_append (point_notMem_ofString hheader)] at hparts
  cases hparts
  exact ⟨headerText, claimsText, signatureText, ⟨rfl, hheader, hsignature⟩, rfl⟩

end Texts

/-! ## What parts say -/

/-- A part of a token is an object, as it is written there. -/
def Says (depth : Nat) (part : String) (j : Json) : Prop :=
  ∃ bs members, Base64.decodeUrl? (Bytes.ofString part) = some bs ∧ Json.ofBytes depth bs = .ok j ∧
    j = .object members

/-- A part has more opening brackets than values may be nested. -/
def IsDeep (depth : Nat) (part : String) : Prop :=
  ∃ bs cs, Base64.decodeUrl? (Bytes.ofString part) = some bs ∧ CodePoints.ofBytes? bs = some cs ∧
    depth + 1 < Json.openings cs

/-- A token can be read to the end: either a part that is nested too deeply counts as malformed, or no
part is. -/
def Readable (nesting : Nesting) (token : String) : Prop :=
  nesting.escapes = false ∨ ∀ header claims signature, Parted token header claims signature →
    ¬ IsDeep nesting.depth header ∧ ¬ IsDeep nesting.depth claims

/-- The claims stand for a member in the second `now`. -/
structure Grants (claims : Json) (now member : Int) : Prop where
  type : member? claims "type" = some (.ofString "access")
  sub : ∃ s, member? claims "sub" = some (.text s) ∧ Text.Integer.parse? s = some member
  iat : ∃ issued, (member? claims "iat").bind wholeOf? = some issued ∧ issued ≤ now
  exp : ∃ expires, (member? claims "exp").bind wholeOf? = some expires ∧ now < expires

/-- A token in three parts is signed with the secret and stands for a member in the second `now`. -/
structure Genuine (depth : Nat) (secret : String) (now : Int) (header claims signature : String)
    (member : Int) : Prop where
  signed : Base64.decodeUrl? (Bytes.ofString signature) =
    some (Sha2.sha256.authenticate (Bytes.ofString secret) (Bytes.ofString (header ++ "." ++ claims)))
  algorithm : ∃ j, Says depth header j ∧ member? j "alg" = some (.ofString "HS256")
  grants : ∃ j, Says depth claims j ∧ Grants j now member

section Parts

variable {nesting : Nesting} {part : String} {bs : Bytes} {j : Json} {e : VerifyError}
  {now id : Int}

theorem says_of_readObject (hbytes : Base64.decodeUrl? (Bytes.ofString part) = some bs)
    (h : readObject nesting bs = .ok (some j)) : Says nesting.depth part j := by
  rw [readObject] at h
  split at h
  · split at h <;> cases h
  · cases h
  · rename_i members hread
    cases h
    exact ⟨bs, members, hbytes, hread, rfl⟩
  · cases h

theorem isDeep_of_readObject (hbytes : Base64.decodeUrl? (Bytes.ofString part) = some bs)
    (h : readObject nesting bs = .error e) :
    e = .tooDeep ∧ nesting.escapes = true ∧ IsDeep nesting.depth part := by
  rw [readObject] at h
  split at h
  · rename_i hread
    split at h
    · rename_i hescapes
      cases h
      obtain ⟨cs, hcs, hdeep⟩ := Json.openings_of_tooDeep hread
      exact ⟨rfl, hescapes, bs, cs, hbytes, hcs, hdeep⟩
    · cases h
  all_goals cases h

theorem algorithm_of_headerHolds {algorithm : String} (h : headerHolds j algorithm = true) :
    member? j "alg" = some (.ofString algorithm) := by
  rw [headerHolds, Bool.and_eq_true] at h
  have halgorithm := h.2
  split at halgorithm
  · rename_i s hs
    rw [Bool.and_eq_true, beq_iff_eq] at halgorithm
    rw [hs, halgorithm.2]
    rfl
  · cases halgorithm

theorem exists_of_claimIs {name : String} {p : Int → Bool} (h : claimIs j name p = true) :
    ∃ n, (member? j name).bind wholeOf? = some n ∧ p n = true := by
  rw [claimIs] at h
  split at h
  · rename_i n hn
    exact ⟨n, hn, h⟩
  · cases h

theorem grants_of_subject? (hholds : claimsHold j now = true) (h : subject? j = some id) :
    Grants j now id := by
  simp only [claimsHold, Bool.and_eq_true] at hholds
  obtain ⟨⟨⟨⟨⟨⟨-, hiat⟩, -⟩, hexp⟩, -⟩, -⟩, -⟩ := hholds
  obtain ⟨issued, hissued, hpast⟩ := exists_of_claimIs hiat
  obtain ⟨expires, hexpires, hfuture⟩ := exists_of_claimIs hexp
  rw [subject?] at h
  split at h
  · rename_i t s htype hsub
    split at h
    · rename_i hkind
      exact
        { type := by
            rw [htype, hkind]
            rfl
          sub := ⟨s, hsub, h⟩
          iat := ⟨issued, hissued, of_decide_eq_true hpast⟩
          exp := ⟨expires, hexpires, of_decide_eq_true hfuture⟩ }
    · cases h
  · cases h

end Parts

/-- A signature is known again where the secret is accepted. -/
theorem verify_sha256 (secret : String) (message signature : Bytes) :
    Algorithm.sha256.verify secret message signature =
      if isKeyFile (Bytes.ofString secret) then none
      else some (Sha2.sha256.authenticate (Bytes.ofString secret) message == signature) := by
  simp only [Algorithm.verify, Algorithm.sign, Algorithm.hash?]
  split
  · rfl
  · simp

/-! ## What comes of a token -/

/-- Everything that may come of a token. -/
inductive Judged (secret : String) (nesting : Nesting) (now : Int) (token : String) :
    Except VerifyError (Option Int) → Prop
  /-- It stands for nobody. -/
  | refused : Judged secret nesting now token (.ok none)
  /-- It stands for a member. -/
  | known {header claims signature : String} {member : Int}
      (hparted : Parted token header claims signature)
      (h : Genuine nesting.depth secret now header claims signature member) :
      Judged secret nesting now token (.ok (some member))
  /-- It cannot be read, which is unforeseen. -/
  | deep {header claims signature : String} (hescapes : nesting.escapes = true)
      (hparted : Parted token header claims signature)
      (h : IsDeep nesting.depth header ∨ IsDeep nesting.depth claims) :
      Judged secret nesting now token (.error .tooDeep)
  /-- The secret is not one. -/
  | refusedSecret (h : isKeyFile (Bytes.ofString secret) = true) :
      Judged secret nesting now token (.error .badSecret)

variable {nesting : Nesting}

theorem judged_of_judge {secret token header claims signature : String} {now : Int}
    {claimsBytes : Bytes} {headerObject : Json} (hparted : Parted token header claims signature)
    (hsigned : Base64.decodeUrl? (Bytes.ofString signature) =
      some (Sha2.sha256.authenticate (Bytes.ofString secret)
        (Bytes.ofString (header ++ "." ++ claims))))
    (hheader : Says nesting.depth header headerObject)
    (halgorithm : member? headerObject "alg" = some (.ofString "HS256"))
    (hclaims : Base64.decodeUrl? (Bytes.ofString claims) = some claimsBytes) :
    Judged secret nesting now token (judge nesting claimsBytes now) := by
  rw [judge]
  split
  · rename_i hread
    obtain ⟨rfl, hescapes, hdeep⟩ := isDeep_of_readObject hclaims hread
    exact .deep hescapes hparted (.inr hdeep)
  · exact .refused
  · rename_i j hread
    split
    · rename_i hholds
      cases hsubject : subject? j with
      | none => exact .refused
      | some member =>
        exact .known hparted
          { signed := hsigned
            algorithm := ⟨headerObject, hheader, halgorithm⟩
            grants := ⟨j, says_of_readObject hclaims hread, grants_of_subject? hholds hsubject⟩ }
    · exact .refused

theorem judged_of_judgeSigned {authority : Authority} {token header claims signature : String}
    {claimsBytes signatureBytes : Bytes} {headerObject : Json} {now : Int}
    (halgorithm : authority.algorithm = "HS256") (hparted : Parted token header claims signature)
    (hheader : Says nesting.depth header headerObject)
    (hclaims : Base64.decodeUrl? (Bytes.ofString claims) = some claimsBytes)
    (hsignature : Base64.decodeUrl? (Bytes.ofString signature) = some signatureBytes) :
    Judged authority.secret nesting now token
      (judgeSigned authority nesting now headerObject claimsBytes
        (Bytes.ofString (header ++ "." ++ claims)) signatureBytes) := by
  have hname : Algorithm.ofName? authority.algorithm = some .sha256 := by
    rw [halgorithm]
    rfl
  rw [judgeSigned]
  split
  · rename_i hholds
    rw [hname]
    dsimp only
    rw [verify_sha256]
    by_cases hkey : isKeyFile (Bytes.ofString authority.secret) = true
    · rw [if_pos hkey]
      exact .refusedSecret hkey
    rw [if_neg hkey]
    split
    · rename_i hnone
      cases hnone
    · exact .refused
    · rename_i hequal
      rw [← eq_of_beq (Option.some.inj hequal)] at hsignature
      have hsays := algorithm_of_headerHolds hholds
      rw [halgorithm] at hsays
      exact judged_of_judge hparted hsignature hheader hsays hclaims
  · exact .refused

theorem judged {authority : Authority} (halgorithm : authority.algorithm = "HS256")
    (nesting : Nesting) (now : Int) (token : String) :
    Judged authority.secret nesting now token (verify authority now token nesting) := by
  rw [verify]
  split
  · exact .refused
  rename_i parts hparts
  obtain ⟨header, claims, signature, hparted, rfl⟩ := parted_of_ofBytes? hparts
  split
  · exact .refused
  rename_i headerBytes hheader
  split
  · rename_i hread
    obtain ⟨rfl, hescapes, hdeep⟩ := isDeep_of_readObject hheader hread
    exact .deep hescapes hparted (.inl hdeep)
  · exact .refused
  rename_i headerObject hread
  split
  · rename_i claimsBytes signatureBytes hclaims hsignature
    have hsays := says_of_readObject hheader hread
    exact judged_of_judgeSigned halgorithm hparted hsays hclaims hsignature
  · exact .refused

/-- **Whom a token stands for**, if it is to be signed with a hash of 256 bits: it is genuine if it
stands for a member, and it stands for a member or for nobody if the secret is one and the token can be
read to the end. -/
theorem verify_genuine {authority : Authority} (halgorithm : authority.algorithm = "HS256")
    (nesting : Nesting) (now : Int) (token : String) :
    (∀ member, verify authority now token nesting = .ok (some member) →
      ∃ header claims signature, Parted token header claims signature ∧
        Genuine nesting.depth authority.secret now header claims signature member) ∧
    (isKeyFile (Bytes.ofString authority.secret) = false → Readable nesting token →
      ∃ found, verify authority now token nesting = .ok found) := by
  have hjudged := judged halgorithm nesting now token
  constructor
  · intro member hmember
    rw [hmember] at hjudged
    cases hjudged with
    | known hparted h => exact ⟨_, _, _, hparted, h⟩
  · intro hsecret hreadable
    cases hresult : verify authority now token nesting with
    | ok found => exact ⟨found, rfl⟩
    | error e =>
      rw [hresult] at hjudged
      cases hjudged with
      | deep hescapes hparted h =>
        rcases hreadable with hforeseen | hflat
        · rw [hescapes] at hforeseen
          cases hforeseen
        · obtain ⟨hheader, hclaims⟩ := hflat _ _ _ hparted
          exact absurd h (not_or.2 ⟨hheader, hclaims⟩)
      | refusedSecret h =>
        rw [hsecret] at h
        cases h

/-- A token that is issued to member 7 is genuine, and a text with one point stands for nobody, also
where nothing may be nested in header and claims. -/
theorem issued_genuine :
    (∃ token header claims signature,
      issue ⟨"HS256", "s", 60⟩ 1700000000 7 (some (.ofUnits 3600 .seconds)) = .ok token ∧
        Parted token header claims signature ∧
        Genuine 0 "s" 1700000000 header claims signature 7) ∧
    ∃ found, verify ⟨"HS256", "s", 60⟩ 1700000000 "a.b" ⟨0, true⟩ = .ok found := by
  constructor
  · have hmember : (7 : Int).natAbs < 10 ^ Text.Integer.maxDigits :=
      Nat.lt_of_lt_of_le (by decide : (7 : Int).natAbs < 10 ^ 1)
        (Nat.pow_le_pow_right (by decide) (by decide))
    have hissued : Calendar.hasDate (1700000000 * 1000000) = true := by decide
    have hexists : ∃ token, issue ⟨"HS256", "s", 60⟩ 1700000000 7 (some (.ofUnits 3600 .seconds)) =
        .ok token := (exists_issue_iff hissued).2 ⟨by decide, by decide +kernel⟩
    obtain ⟨token, htoken⟩ := hexists
    have hverified := verify_issued hmember hissued htoken 1700000000 ⟨0, true⟩
    obtain ⟨header, claims, signature, hparted, hgenuine⟩ :=
      (verify_genuine rfl ⟨0, true⟩ 1700000000 token).1 7 hverified
    exact ⟨token, header, claims, signature, htoken, hparted, hgenuine⟩
  · refine (verify_genuine rfl ⟨0, true⟩ 1700000000 "a.b").2 (by decide +kernel) (.inr ?_)
    intro header claims signature hparted
    have hpoints := congrArg (fun s => s.toList.count '.') hparted.eq
    simp only [String.toList_append, List.count_append] at hpoints
    have hone : "a.b".toList.count '.' = 1 := by decide
    have hpoint : ".".toList.count '.' = 1 := by decide
    omega

/-! ## Tokens that are not judged -/

/-- A token that begins with too many brackets is not judged where that is unforeseen, whatever else
is in it. -/
theorem verify_brackets (authority : Authority) (now : Int) {nesting : Nesting}
    (hescapes : nesting.escapes = true) {n : Nat} (h : nesting.depth + 1 < n)
    (claims signature : Bytes) :
    verify authority now
        (sealed (Base64.encodeUrl (List.replicate n 0x5B) ++ point :: Base64.encodeUrl claims)
          signature) nesting =
      .error .tooDeep := by
  have hread : readObject nesting (List.replicate n 0x5B) = .error .tooDeep := by
    simp only [readObject, Json.ofBytes_brackets h, hescapes, if_true]
  simp only [verify, ofBytes?_sealed, Base64.decodeUrl?_encodeUrl, hread]

/-- Nothing is judged with the text of a key file as secret, once its header has been accepted. -/
theorem verify_keyFile {authority : Authority} {a : Algorithm} {v : Sha2.Variant} (now : Int)
    (hname : Algorithm.ofName? authority.algorithm = some a) (hhash : a.hash? = some v)
    (hsecret : isKeyFile (Bytes.ofString authority.secret) = true) (claims signature : Bytes)
    (nesting : Nesting) :
    verify authority now
        (sealed (part (header a) ++ point :: Base64.encodeUrl claims) signature) nesting =
      .error .badSecret := by
  have hheader : headerHolds (header a) authority.algorithm = true := by
    rw [← name_ofName? hname]
    exact headerHolds_header a
  have hsign (message : Bytes) : a.sign authority.secret message = none := by
    simp only [Algorithm.sign, hhash, hsecret, if_true]
  simp only [part, verify, ofBytes?_sealed, Base64.decodeUrl?_encodeUrl, readObject_header]
  simp only [judgeSigned, hheader, if_true, hname, Algorithm.verify, hsign, Option.map_none]

/-- Not every text stands for somebody or for nobody: with the beginning of a key file as secret, a
token without claims is not judged. -/
theorem keyFile_not_judged : ¬ ∀ (authority : Authority) (now : Int) (token : String),
    authority.algorithm = "HS256" → ∃ found, verify authority now token = .ok found := by
  intro h
  have hwritten : sealed (part (header .sha256) ++ point :: Base64.encodeUrl [0x7B, 0x7D]) [0] =
      "eyJhbGciOiJIUzI1NiIsInR5cCI6IkpXVCJ9.e30.AA" := by decide +kernel
  have hsecret : isKeyFile (Bytes.ofString "ssh-rsa AAAA") = true := by decide +kernel
  obtain ⟨found, hfound⟩ := h ⟨"HS256", "ssh-rsa AAAA", 60⟩ 1700000000
    "eyJhbGciOiJIUzI1NiIsInR5cCI6IkpXVCJ9.e30.AA" rfl
  rw [← hwritten, verify_keyFile 1700000000 rfl rfl hsecret] at hfound
  cases hfound

end Portrait.Token
