import Portrait.Avatar.Records
import Portrait.Form.Body

/-!
# What is answered

* `Answer` — what a request that is not turned away gets.
* `Answer.status`, `Answer.content` — how it is told.
-/

namespace Portrait.Web

/-- What a response says. -/
inductive Content where
  | value (j : Json)
  | text (s : String)

/-- What a request that is not turned away gets. -/
inductive Answer where
  | welcome (name version : String)
  | health
  /-- The path should be written without the slashes at its end. -/
  | moved
  /-- The row of a member, and the address of the avatar. -/
  | profile (m : Member) (address : String)
  /-- The avatar of a member, and its address. -/
  | avatar (member : Int) (file address : String)
  deriving DecidableEq, Repr

/-- The length in characters of the names of files that a profile can show. -/
def maxFileName : Nat := 255

/-- Can a profile show the row? -/
def isPresentable (m : Member) : Bool :=
  m.name.length ≤ Form.maxNameLength && m.avatar.length ≤ maxFileName

/-- How universal time is written at the end of a moment, in full and in short. -/
def universal : List Char × List Char := ("+00:00".toList, ['Z'])

/-- A moment with universal time in short. -/
def momentText (s : String) : String :=
  if universal.1.isSuffixOf s.toList then
    String.ofList (s.toList.take (s.toList.length - universal.1.length) ++ universal.2)
  else s

/-- A profile as a value. -/
def profileValue (m : Member) (address : String) : Json :=
  .ofMembers [("name", .ofString m.name), ("avatar", .ofString m.avatar), ("user_id", .whole m.id),
    ("created_at", .ofString (momentText m.joined)), ("blocked", .bool m.isBlocked),
    ("admin", .bool m.isAdmin), ("avatar_url", .ofString address)]

namespace Answer

/-- The status of the response. -/
def status : Answer → Nat
  | moved => 307
  | _ => 200

/-- What the response says. -/
def content : Answer → Content
  | welcome name version =>
    .value (.ofMembers [("name", .ofString name), ("version", .ofString version),
      ("status", .ofString "running"), ("docs", .ofString "/docs")])
  | health => .value (.ofMembers [("status", .ofString "healthy")])
  | moved => .text ""
  | profile m address => .value (profileValue m address)
  | avatar member file address =>
    .value (.ofMembers [("user_id", .whole member), ("avatar", .ofString file),
      ("avatar_url", .ofString address)])

end Answer

end Portrait.Web
