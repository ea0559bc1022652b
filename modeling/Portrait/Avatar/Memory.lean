import Portrait.Avatar.Service

/-!
# Collaborators in memory

A table of members and a set of files, with a record of all calls. A call may be made to fail; it
then changes nothing but the record.

* `Memory` — the table, the files and the calls.
* `Memory.collaborators` — the calls, with faults.
-/

namespace Portrait.Avatar

/-- A call of the service. -/
inductive Call where
  | lookUp (id : Int)
  | store (path : String)
  | record (id : Int) (file : String)
  | remove (path : String)
  deriving DecidableEq, Repr

/-- A table of members, files by their paths, and the calls that were made. -/
structure Memory where
  roster : Roster
  files : List (String × Artwork) := []
  calls : List Call := []

/-- Which calls fail, and why. -/
structure Faults where
  store : Option Cause := none
  record : Option Cause := none
  remove : Option Cause := none

namespace Memory

/-- Is there a file at a path? -/
def hasFile (m : Memory) (path : String) : Bool := m.files.any fun f => f.1 = path

/-- The files without the one at a path. -/
def without (files : List (String × Artwork)) (path : String) : List (String × Artwork) :=
  files.filter fun f => f.1 ≠ path

/-- The memory after a call has been recorded. -/
def called (m : Memory) (call : Call) : Memory := { m with calls := m.calls ++ [call] }

/-- The row of a member. -/
def lookUp (m : Memory) (id : Int) : Memory × Except Cause Member :=
  (m.called (.lookUp id),
    match m.roster.find? id with
    | none => .error (.noMember id)
    | some owner => .ok owner)

/-- Stores a file, which takes over from one that is there. -/
def store (fault : Option Cause) (m : Memory) (path : String) (art : Artwork) : Memory × Option Cause :=
  let m := m.called (.store path)
  match fault with
  | some cause => (m, some cause)
  | none => ({ m with files := without m.files path ++ [(path, art)] }, none)

/-- Lets the row of a member name another file. -/
def record (fault : Option Cause) (m : Memory) (id : Int) (file : String) : Memory × Option Cause :=
  let m := m.called (.record id file)
  match fault with
  | some cause => (m, some cause)
  | none =>
    match m.roster.find? id with
    | none => (m, some (.noMember id))
    | some _ => ({ m with roster := m.roster.setAvatar id file }, none)

/-- Removes a file, which must be there. -/
def remove (fault : Option Cause) (m : Memory) (path : String) : Memory × Option Cause :=
  let m := m.called (.remove path)
  match fault with
  | some cause => (m, some cause)
  | none =>
    if m.hasFile path then ({ m with files := without m.files path }, none)
    else (m, some (.storage (.tree .notFound)))

/-- Collaborators that work in memory. -/
def collaborators (f : Faults) : Collaborators Memory where
  lookUp := lookUp
  store := store f.store
  record := record f.record
  remove := remove f.remove

end Memory

end Portrait.Avatar
