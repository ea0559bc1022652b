import Portrait.Avatar.Records
import Portrait.Avatar.Service

/-!
# What the service keeps

* `Site` — the table of members and the stored files.
* `Site.collaborators` — what the avatar service does to them.
-/

namespace Portrait.Web

open Avatar (Artwork Cause Collaborators)

/-- The table of members and the stored files. -/
structure Site where
  roster : Roster
  files : Storage.Local Artwork

namespace Site

/-- Stores a file. -/
def store (s : Site) (path : String) (art : Artwork) : Site × Option Cause :=
  let (files, e) := s.files.save path art
  ({ s with files := files }, e.map .storage)

/-- Lets the row of a member name another file. -/
def record (s : Site) (id : Int) (file : String) : Site × Option Cause :=
  match Avatar.Records.setAvatar s.roster id file with
  | .error cause => (s, some cause)
  | .ok roster => ({ s with roster := roster }, none)

/-- Removes a file. -/
def remove (s : Site) (path : String) : Site × Option Cause :=
  let (files, e) := s.files.remove path
  ({ s with files := files }, e.map .storage)

/-- The table of members and the stored files as the avatar service sees them. -/
def collaborators : Collaborators Site where
  lookUp s id := (s, Avatar.Records.lookUp s.roster id)
  store := store
  record := record
  remove := remove

/-- The address of an avatar; empty if there is none. -/
def url (s : Site) (avatar : String) : String := Avatar.url s.files.url avatar

end Site

end Portrait.Web
