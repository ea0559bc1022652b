import Portrait.Json.Printer
import Portrait.Settings.Basic
import Portrait.Text.Base64
import Portrait.Token.Duration
import Portrait.Token.Signature

/-!
# Issuing access tokens

A token is three parts joined by points: a header that names the way of signing, the claims, and the
signature of both. Each part is written in base 64.

* `Authority` — what tokens are issued and verified with.
* `issue` — a token for a member.
-/

namespace Portrait.Token

/-- What tokens are issued and verified with. -/
structure Authority where
  algorithm : String := "HS256"
  secret : String
  /-- How long tokens live if nothing else is asked for. -/
  lifetimeMinutes : Int := 43200
  deriving DecidableEq, Repr

/-- What the settings say about tokens. -/
def Authority.ofSettings (s : Settings) : Authority := ⟨s.algorithm, s.secretKey, s.tokenMinutes⟩

/-- Why no token can be issued. -/
inductive IssueError where
  /-- The token would expire at a time without a date. -/
  | noDate
  /-- There is no such way of signing. -/
  | unknownAlgorithm
  /-- The secret is refused. -/
  | badSecret
  deriving DecidableEq, Repr

/-- The kind of the tokens that are issued here. -/
def kind : String := "access"

/-- The point between the parts. -/
def point : UInt8 := 0x2E

/-- A value as a part of a token. -/
def part (j : Json) : Bytes := Base64.encodeUrl (j.print.map UInt8.ofNat)

/-- The header of a token. -/
def header (a : Algorithm) : Json :=
  .ofMembers [("alg", .ofString a.name), ("typ", .ofString "JWT")]

/-- The claims of a token. -/
def claims (member issued expires : Int) : Json :=
  .ofMembers [("sub", .ofString (toString member)), ("iat", .whole issued), ("exp", .whole expires),
    ("type", .ofString kind)]

/-- How long a token lives: as long as was asked for, unless that is no time at all. -/
def Authority.lifetime (authority : Authority) (requested : Option Duration) : Duration :=
  match requested with
  | some d => if d = 0 then .ofUnits authority.lifetimeMinutes .minutes else d
  | none => .ofUnits authority.lifetimeMinutes .minutes

/-- The second in which a token expires that is issued in the second `now`, none if that has no
date. -/
def expiry? (now : Int) (lifetime : Duration) : Option Int :=
  let moment := now * 1000000 + lifetime
  if lifetime.isRepresentable && Calendar.hasDate moment then some (Int.fdiv moment 1000000) else none

/-- The text of a token with these parts and their signature. -/
def sealed (signed signature : Bytes) : String :=
  String.ofList ((signed ++ point :: Base64.encodeUrl signature).map fun b => Char.ofNat b.toNat)

/-- A token for a member that is issued in the second `now`. -/
def issue (authority : Authority) (now member : Int) (requested : Option Duration) :
    Except IssueError String :=
  match expiry? now (authority.lifetime requested) with
  | none => .error .noDate
  | some expires =>
    match Algorithm.ofName? authority.algorithm with
    | none => .error .unknownAlgorithm
    | some a =>
      let signed := part (header a) ++ point :: part (claims member now expires)
      match a.sign authority.secret signed with
      | none => .error .badSecret
      | some signature => .ok (sealed signed signature)

end Portrait.Token
