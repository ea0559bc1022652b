import Portrait.Avatar.Failure

/-!
# Members and their avatars

The roster is the table of all members. No two rows have the same number. The avatar service needs a
part of it only: the row of a member can be read, and made to name another file.

* `Roster.find?` — the row of a member.
* `Roster.setName`, `Roster.setAvatar` — the only changes that are ever made to rows.
* `Avatar.Records.lookUp`, `Avatar.Records.setAvatar` — what the avatar service does; both need a
  member who exists.
-/

namespace Portrait

/-- A row of the table of members. -/
structure Member where
  id : Int
  name : String := ""
  /-- The name of the file with the avatar; empty if there is none. -/
  avatar : String := ""
  /-- May the member change the avatars of others? -/
  isAdmin : Bool := false
  isBlocked : Bool := false
  /-- The moment of joining. -/
  joined : String := ""
  deriving DecidableEq, Repr

/-- The table of members. -/
structure Roster where
  members : List Member := []
  deriving DecidableEq, Repr

namespace Roster

/-- The row of a member. -/
def find? (r : Roster) (id : Int) : Option Member := r.members.find? fun m => m.id = id

/-- The table with the row of a member changed. -/
def update (r : Roster) (id : Int) (change : Member → Member) : Roster :=
  ⟨r.members.map fun m => if m.id = id then change m else m⟩

/-- The table in which a member has another name. -/
def setName (r : Roster) (id : Int) (name : String) : Roster :=
  r.update id fun m => { m with name := name }

/-- The table in which a member has another avatar. -/
def setAvatar (r : Roster) (id : Int) (avatar : String) : Roster :=
  r.update id fun m => { m with avatar := avatar }

/-- Is the number one that a table can hold? -/
def holdsId (id : Int) : Bool := -0x8000000000000000 ≤ id && id < 0x8000000000000000

end Roster

namespace Avatar.Records

/-- The row of a member. -/
def lookUp (r : Roster) (id : Int) : Except Cause Member :=
  if Roster.holdsId id then
    match r.find? id with
    | none => .error (.noMember id)
    | some m => .ok m
  else .error .idOutOfRange

/-- The table in which the row of a member names another file. -/
def setAvatar (r : Roster) (id : Int) (file : String) : Except Cause Roster :=
  match lookUp r id with
  | .error e => .error e
  | .ok _ => .ok (r.setAvatar id file)

end Avatar.Records

end Portrait
