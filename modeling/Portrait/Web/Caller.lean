import Portrait.Avatar.Records
import Portrait.Token.Verify
import Portrait.Web.Request

/-!
# Who sends a request

* `bearer?` — the token that a request carries.
* `authenticate` — the member who sends it, if the token is good and the member is not blocked.
-/

namespace Portrait.Web

/-- The scheme of tokens. -/
def bearerScheme : String := "bearer"

/-- The token in a header. -/
def bearer? (header : String) : Option String :=
  let scheme := header.toList.takeWhile (· ≠ ' ')
  let token := Text.strip (String.ofList (header.toList.drop (scheme.length + 1)))
  if lower (String.ofList scheme) = bearerScheme ∧ token ≠ "" then some token else none

/-- The token that a request carries. -/
def Request.token? (r : Request) : Option String := (r.header? "authorization").bind bearer?

/-- The row of the caller with a number. -/
def callerRow (roster : Roster) (id : Int) : Except Rejection Member :=
  if Roster.holdsId id then
    match roster.find? id with
    | none => .error .unknownCaller
    | some m => if m.isBlocked then .error .blocked else .ok m
  else .error .crash

/-- The member who sends a request in the second `now`. -/
def authenticate (authority : Token.Authority) (now : Int) (roster : Roster) (r : Request) :
    Except Rejection Member :=
  match r.token? with
  | none => .error .unauthenticated
  | some token =>
    match Token.verify authority now token r.nesting with
    | .error _ => .error .crash
    | .ok none => .error .badToken
    | .ok (some id) => callerRow roster id

end Portrait.Web
