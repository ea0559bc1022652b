import Portrait.Form.Problem
import Portrait.Json.Basic
import Portrait.Still.Probe
import Portrait.Web.Form

/-!
# Why a request is turned away

* `Rejection` — the reasons.
* `Rejection.status`, `Rejection.detail` — how they are told.
-/

namespace Portrait.Web

/-- Why a request is turned away. -/
inductive Rejection where
  | unauthenticated
  | badToken
  /-- The token is genuine, but its member does not exist any more. -/
  | unknownCaller
  | blocked
  /-- The caller may not change the avatar of that member. -/
  | forbidden
  | noMember
  | noPage
  | wrongMethod (allowed : String)
  | fileTooLarge (limit : Int)
  | dataTooLarge
  | badData
  | refused (r : Refusal)
  | badForm (e : FormError)
  | unreadable
  | invalid (complaints : List Complaint)
  | serverError
  /-- Something went wrong that nobody expected. -/
  | crash
  deriving DecidableEq, Repr

namespace Rejection

/-- The status of the response. -/
def status : Rejection → Nat
  | unauthenticated | badToken | unknownCaller => 401
  | blocked | forbidden => 403
  | noMember | noPage => 404
  | wrongMethod _ => 405
  | fileTooLarge _ => 413
  | dataTooLarge | badData | refused _ | badForm _ | unreadable => 400
  | invalid _ => 422
  | serverError | crash => 500

/-- What is said of a body that cannot be read. -/
def unreadableWords : String := "There was an error parsing the body"

/-- What is said if something went wrong that nobody expected. -/
def crashWords : String := "Internal Server Error"

/-- A damaged form in words. -/
def formWords : FormError → String
  | .noBoundary => "Missing boundary in multipart."
  | .noName => "The Content-Disposition header field \"name\" must be provided."
  | .longText => "Part exceeded maximum size of " ++ toString (maxText / 1024) ++ "KB."
  | .damaged => unreadableWords

/-- A refusal in words. -/
def refusalWords : Refusal → String
  | .undecodable => "Avatar image decode failed"
  | .tooSmall => "Avatar image too small"
  | .tooLarge => "Avatar image too large"

/-- A step as a value. -/
def stepValue : Step → Json
  | .name s => .ofString s
  | .index n => .whole n

/-- A complaint as a value. -/
def complaintValue (c : Complaint) : Json :=
  .ofMembers [("type", .ofString c.problem.kind), ("loc", .array (c.place.map stepValue)),
    ("msg", .ofString c.problem.message)]

/-- What the response says. -/
def detail : Rejection → Json
  | unauthenticated => .ofString "Authentication required"
  | badToken => .ofString "Could not validate credentials"
  | unknownCaller => .ofString "User not found"
  | blocked => .ofString "User is blocked"
  | forbidden => .ofString "Not authorized to update this user's avatar"
  | noMember => .ofString "User not found"
  | noPage => .ofString "Not Found"
  | wrongMethod _ => .ofString "Method Not Allowed"
  | fileTooLarge limit =>
    .ofString ("Avatar file too large. Maximum size is " ++ toString (Int.fdiv limit 1024) ++ "KB")
  | dataTooLarge => .ofString "Avatar data too large"
  | badData => .ofString "Invalid avatar data"
  | refused r => .ofString (refusalWords r)
  | badForm e => .ofString (formWords e)
  | unreadable => .ofString unreadableWords
  | invalid complaints => .array (complaints.map complaintValue)
  | serverError => .ofString "Server error"
  | crash => .ofString crashWords

/-- Does the response ask for a token? -/
def asksForToken (r : Rejection) : Bool := r.status = 401

end Rejection

end Portrait.Web
