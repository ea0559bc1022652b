/-!
# Trees of files

A tree is known by what is found at each place: a folder, a file with its content, or nothing. The
operations are those of a file system without links. What contents are is left open.

* `Tree.find` — what is at a place, if one can get there.
* `Tree.makeFolders`, `Tree.create`, `Tree.rename`, `Tree.unlink` — the changes. Each of them says
  why it failed, and folders that were made before a failure stay.
-/

namespace Portrait.Storage

/-- A place in a tree: the names on the way to it from the top. -/
abbrev Place := List String

/-- What may be found at a place. -/
inductive Entry (α : Type) where
  | folder
  | file (content : α)
  deriving DecidableEq, Repr

/-- Why an operation on a tree fails. -/
inductive TreeError where
  | notFound
  | exists
  | notFolder
  | isFolder
  | tooLong
  deriving DecidableEq, Repr

/-- What is at each place below the top. -/
structure Tree (α : Type) where
  entries : List (Place × Entry α) := []
  deriving DecidableEq, Repr

namespace Tree

variable {α : Type}

/-- What is at a place; the top is a folder. -/
def get? (t : Tree α) (p : Place) : Option (Entry α) :=
  if p = [] then some .folder else t.entries.lookup p

/-- The tree with another entry at a place. -/
def insert (t : Tree α) (p : Place) (e : Entry α) : Tree α :=
  ⟨(p, e) :: t.entries.filter fun x => x.1 ≠ p⟩

/-- The tree without the entry at a place. -/
def erase (t : Tree α) (p : Place) : Tree α := ⟨t.entries.filter fun x => x.1 ≠ p⟩

/-- The greatest length of a name in bytes. -/
def maxName : Nat := 255

/-- Is the name too long? -/
def isLongName (name : String) : Bool := maxName < name.utf8ByteSize

/-- The length in bytes that the text of a place stays below. -/
def maxPlace : Nat := 4096

/-- The length of the text of a place in bytes: before every name there is a slash. -/
def placeSize (p : Place) : Nat := p.foldl (fun size name => size + name.utf8ByteSize + 1) 0

/-- Is the text of the place too long? -/
def isLongPlace (p : Place) : Bool := maxPlace ≤ placeSize p

/-- What is at a place that is reached from `done` through more names, every one of which but the last
must be that of a folder. -/
def findFrom (t : Tree α) (done : Place) : List String → Except TreeError (Option (Entry α))
  | [] => .ok (t.get? done)
  | name :: rest =>
    match t.get? done with
    | none => .error .notFound
    | some (.file _) => .error .notFolder
    | some .folder => if isLongName name then .error .tooLong else t.findFrom (done ++ [name]) rest

/-- What is at a place. -/
def find (t : Tree α) (p : Place) : Except TreeError (Option (Entry α)) :=
  if isLongPlace p then .error .tooLong else t.findFrom [] p

/-- Makes the folders on the way from `done` through more names. The name `..` leads back. -/
def makeFoldersFrom (t : Tree α) (done : Place) : List String → Tree α × Option TreeError
  | [] => (t, none)
  | name :: rest =>
    if name = ".." then t.makeFoldersFrom done.dropLast rest
    else if isLongName name then (t, some .tooLong)
    else
      match t.get? (done ++ [name]) with
      | some .folder => t.makeFoldersFrom (done ++ [name]) rest
      | some (.file _) => (t, some (if rest = [] then .exists else .notFolder))
      | none => (t.insert (done ++ [name]) .folder).makeFoldersFrom (done ++ [name]) rest

/-- Makes the folders on the way to a place, which is to be a folder too. -/
def makeFolders (t : Tree α) (p : Place) : Tree α × Option TreeError :=
  if isLongPlace p then (t, some .tooLong) else t.makeFoldersFrom [] p

/-- Writes a new file. -/
def create (t : Tree α) (p : Place) (content : α) : Except TreeError (Tree α) :=
  match t.find p with
  | .error e => .error e
  | .ok (some _) => .error .exists
  | .ok none => .ok (t.insert p (.file content))

/-- Gives a file another place, where it takes over from another file. -/
def rename (t : Tree α) (source target : Place) : Except TreeError (Tree α) :=
  match t.find source with
  | .error e => .error e
  | .ok none => .error .notFound
  | .ok (some .folder) => .error .isFolder
  | .ok (some (.file content)) =>
    match t.find target with
    | .error e => .error e
    | .ok (some .folder) => .error .isFolder
    | .ok _ => .ok ((t.erase source).insert target (.file content))

/-- Removes a file. -/
def unlink (t : Tree α) (p : Place) : Except TreeError (Tree α) :=
  match t.find p with
  | .error e => .error e
  | .ok none => .error .notFound
  | .ok (some .folder) => .error .isFolder
  | .ok (some (.file _)) => .ok (t.erase p)

end Tree

end Portrait.Storage
