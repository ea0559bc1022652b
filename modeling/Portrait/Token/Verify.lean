import Portrait.Json.Parser
import Portrait.Token.Issue

/-!
# Verifying access tokens

* `verify` — the member that a token stands for, if it is genuine, current and of the right kind.

Tokens come from anybody, and so does the nesting of what they say. The library that reads them sets
the limit (`Nesting`).
-/

namespace Portrait.Token

/-- Why a token cannot be judged. -/
inductive VerifyError where
  /-- Reading the header or the claims was given up. -/
  | tooDeep
  /-- The secret is refused. -/
  | badSecret
  deriving DecidableEq, Repr

/-- How the library that reads headers and claims deals with nested values. -/
structure Nesting where
  /-- How deeply values may be nested within the outermost one. -/
  depth : Nat := Json.usualDepth
  /-- Is it unforeseen that a part is nested more deeply? Otherwise the part counts as malformed. -/
  escapes : Bool := false
  deriving DecidableEq, Repr

/-- The parts of a token as they are written, and the bytes that are signed. -/
structure Parts where
  header : Bytes
  claims : Bytes
  signature : Bytes
  signed : Bytes

/-- What is before and after the first point. -/
def splitFirst? (bs : Bytes) : Option (Bytes × Bytes) :=
  match bs.dropWhile (· ≠ point) with
  | [] => none
  | _ :: after => some (bs.takeWhile (· ≠ point), after)

/-- What is before and after the last point. -/
def splitLast? (bs : Bytes) : Option (Bytes × Bytes) :=
  match splitFirst? bs.reverse with
  | none => none
  | some (after, before) => some (before.reverse, after.reverse)

/-- The parts of a token: the signature is what follows the last point, the header what precedes the
first. -/
def Parts.ofBytes? (bs : Bytes) : Option Parts :=
  match splitLast? bs with
  | none => none
  | some (signed, signature) =>
    match splitFirst? signed with
    | none => none
    | some (header, claims) => some ⟨header, claims, signature, signed⟩

/-- The member of an object with this name. -/
def member? (j : Json) (name : String) : Option Json := j.get? (CodePoints.ofString name)

/-- An object in encoded bytes; none if they hold none. -/
def readObject (nesting : Nesting) (bs : Bytes) : Except VerifyError (Option Json) :=
  match Json.ofBytes nesting.depth bs with
  | .error .tooDeep => if nesting.escapes then .error .tooDeep else .ok none
  | .error _ => .ok none
  | .ok (.object members) => .ok (some (.object members))
  | .ok _ => .ok none

/-- Is a member absent, or else a text? -/
def isTextIfPresent (j : Json) (name : String) : Bool :=
  match member? j name with
  | none => true
  | some (.text _) => true
  | some _ => false

/-- The extension of the header that is understood: whether the claims are in base 64. -/
def knownExtension : String := "b64"

/-- Are all extensions that must be understood known, named by texts and in use? There must be at
least one if they are listed. -/
def extensionsHold (header : Json) : Bool :=
  match member? header "crit" with
  | none => true
  | some (.array items) =>
    !items.isEmpty && items.all fun item =>
      match item with
      | .text s => s == CodePoints.ofString knownExtension && (header.get? s).isSome
      | _ => false
  | some _ => false

/-- Does the header say that the claims are elsewhere? -/
def isDetached (header : Json) : Bool :=
  match member? header knownExtension with
  | some (.bool false) => true
  | _ => false

/-- May the header stand over a token that is signed in this way? -/
def headerHolds (header : Json) (algorithm : String) : Bool :=
  isTextIfPresent header "kid" && extensionsHold header && !isDetached header &&
    (match member? header "alg" with
      | some (.text s) => !s.isEmpty && s == CodePoints.ofString algorithm
      | _ => false)

/-- The whole number that a value stands for: a number without its fraction, or a text. -/
def wholeOf? : Json → Option Int
  | .whole n => some n
  | .decimal d => d.truncate?
  | .bool b => some (if b then 1 else 0)
  | .text s => Text.Integer.parse? s
  | _ => none

/-- Is the claim a number for which this holds? -/
def claimIs (claims : Json) (name : String) (p : Int → Bool) : Bool :=
  match (member? claims name).bind wholeOf? with
  | some n => p n
  | none => false

/-- Is there such a claim, other than null? -/
def hasClaim (claims : Json) (name : String) : Bool :=
  match member? claims name with
  | none => false
  | some j => !j.isNull

/-- Do the claims hold at the second `now`? The token must have been issued, must be valid already
and must not have expired; it must be for no special audience. -/
def claimsHold (claims : Json) (now : Int) : Bool :=
  hasClaim claims "sub" && hasClaim claims "iat" && hasClaim claims "exp" &&
    claimIs claims "iat" (· ≤ now) &&
    ((member? claims "nbf").isNone || claimIs claims "nbf" (· ≤ now)) &&
    claimIs claims "exp" (now < ·) &&
    !((member? claims "aud").any Json.isSomething) &&
    isTextIfPresent claims "sub" && isTextIfPresent claims "jti"

/-- The member in claims of the right kind. -/
def subject? (claims : Json) : Option Int :=
  match member? claims "type", member? claims "sub" with
  | some (.text t), some (.text s) =>
    if t = CodePoints.ofString kind then Text.Integer.parse? s else none
  | _, _ => none

/-- The member in the claims, if they hold. -/
def judge (nesting : Nesting) (claims : Bytes) (now : Int) : Except VerifyError (Option Int) :=
  match readObject nesting claims with
  | .error e => .error e
  | .ok none => .ok none
  | .ok (some claims) => .ok (if claimsHold claims now then subject? claims else none)

/-- The member in claims that are signed as the header says. -/
def judgeSigned (authority : Authority) (nesting : Nesting) (now : Int) (header : Json)
    (claims signed signature : Bytes) : Except VerifyError (Option Int) :=
  if headerHolds header authority.algorithm then
    match Algorithm.ofName? authority.algorithm with
    | none => .ok none
    | some a =>
      match a.verify authority.secret signed signature with
      | none => .error .badSecret
      | some false => .ok none
      | some true => judge nesting claims now
  else .ok none

/-- The member that a token stands for in the second `now`; none if it is not genuine, not current or
of another kind. -/
def verify (authority : Authority) (now : Int) (token : String) (nesting : Nesting := {}) :
    Except VerifyError (Option Int) :=
  match Parts.ofBytes? (Bytes.ofString token) with
  | none => .ok none
  | some parts =>
    match Base64.decodeUrl? parts.header with
    | none => .ok none
    | some header =>
      match readObject nesting header with
      | .error e => .error e
      | .ok none => .ok none
      | .ok (some header) =>
        match Base64.decodeUrl? parts.claims, Base64.decodeUrl? parts.signature with
        | some claims, some signature =>
          judgeSigned authority nesting now header claims parts.signed signature
        | _, _ => .ok none

end Portrait.Token
