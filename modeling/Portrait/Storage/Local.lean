import Portrait.Storage.Tree
import Portrait.Text.Quoted

/-!
# Files in a folder

Files are kept in a folder of a tree and served under an address. A file is written under another
name first and takes its own when it is complete, so that nobody sees it half written.

* `resolve` — the place that a path leads to.
* `Local.open` — makes the folder.
* `Local.save`, `Local.remove`, `Local.url` — the operations.
-/

namespace Portrait.Storage

/-- Why an operation on stored files fails. -/
inductive StorageError where
  /-- The path leads out of the folder. -/
  | escapes (path : String)
  /-- The path cannot be that of a file. -/
  | badPath
  | tree (e : TreeError)
  deriving DecidableEq, Repr

/-- The words for a path that leads out of the folder. -/
def escapeMessage (path : String) : String := "Path " ++ Text.quote path ++ " escapes the storage directory"

/-- The names in a path. -/
def names (path : String) : List String := (path.splitOn "/").filter fun n => n ≠ "" && n ≠ "."

/-- The place that names lead to; `..` leads back. -/
def follow (start : Place) (names : List String) : Place :=
  names.foldl (fun p n => if n = ".." then p.dropLast else p ++ [n]) start

/-- The place that a path leads to, from a folder or, with a slash in front, from the top. -/
def resolve (folder : Place) (path : String) : Place :=
  follow (if path.startsWith "/" then [] else folder) (names path)

/-- The address without slashes at its end. -/
def trimSlashes (s : String) : String :=
  String.ofList (s.toList.reverse.dropWhile (· = '/')).reverse

/-- The place where a file is written before it gets its name. -/
def temporary (place : Place) : Place := place.dropLast ++ ["." ++ place.getLastD "" ++ ".tmp"]

/-- A folder of a tree, served under an address. -/
structure Local (α : Type) where
  tree : Tree α
  folder : Place
  address : String
  deriving DecidableEq, Repr

namespace Local

variable {α : Type}

/-- Makes the folder at a path below a place, and serves it. -/
def «open» (tree : Tree α) (root : Place) (path address : String) : Local α × Option TreeError :=
  let start := if path.startsWith "/" then [] else root
  let (tree, e) := tree.makeFolders (start ++ names path)
  (⟨tree, resolve root path, trimSlashes address⟩, e)

/-- The address of a file. -/
def url (s : Local α) (path : String) : String := s.address ++ "/" ++ path

/-- The place of a file, which must not be outside the folder. -/
def place (s : Local α) (path : String) : Except StorageError Place :=
  if path.toList.contains '\x00' then .error .badPath
  else
    let p := resolve s.folder path
    if s.folder.isPrefixOf p then .ok p else .error (.escapes path)

/-- Removes what was left of a file that is being written. If that fails, it fails for this reason
and not for the one before. -/
def cleanUp (t : Tree α) (p : Place) (e : TreeError) : Tree α × Option TreeError :=
  match t.unlink p with
  | .ok t => (t, some e)
  | .error .notFound => (t, some e)
  | .error e => (t, some e)

/-- Writes a file at a place. -/
def write (t : Tree α) (p : Place) (content : α) : Tree α × Option TreeError :=
  match t.makeFolders p.dropLast with
  | (t, some e) => (t, some e)
  | (t, none) =>
    match t.create (temporary p) content with
    | .error e => cleanUp t (temporary p) e
    | .ok written =>
      match written.rename (temporary p) p with
      | .error e => cleanUp written (temporary p) e
      | .ok t => (t, none)

/-- Saves a file. The top has no name of its own, so nothing can be written there. -/
def save (s : Local α) (path : String) (content : α) : Local α × Option StorageError :=
  match s.place path with
  | .error e => (s, some e)
  | .ok [] => (s, some .badPath)
  | .ok p =>
    let (t, e) := write s.tree p content
    ({ s with tree := t }, e.map .tree)

/-- Removes a file, which must be there. -/
def remove (s : Local α) (path : String) : Local α × Option StorageError :=
  match s.place path with
  | .error e => (s, some e)
  | .ok p =>
    match s.tree.unlink p with
    | .error e => (s, some (.tree e))
    | .ok t => ({ s with tree := t }, none)

end Local

end Portrait.Storage
