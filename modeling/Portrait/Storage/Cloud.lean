import Portrait.Bytes
import Portrait.Storage.Local

/-!
# Files in object stores

Two kinds of object stores are spoken to through clients. What is asked of a client is recorded, and
any request may fail.

* `Bucket` — a bucket in a store of either kind.
* `Bucket.save`, `Bucket.remove` — the requests that are made.
* `Bucket.url` — where an object is found.
-/

namespace Portrait.Storage

/-- What is asked of a client. -/
inductive Request where
  | simpleClient (region : String) (endpoint : Option String)
  | put (bucket key : String) (content : Bytes)
  | delete (bucket key : String)
  | googleClient
  | googleClientFrom (accountFile : String)
  | googleBucket (bucket : String)
  | googleUpload (key cacheControl access : String) (content : Bytes)
  | googleDelete (key : String)
  deriving DecidableEq, Repr

/-- A bucket. -/
inductive Bucket where
  /-- In the simple storage service, or one like it at another address. -/
  | simple (bucket region : String) (endpoint : Option String)
  /-- In the other store; a client is made when it is first needed. -/
  | google (bucket : String) (accountFile : String) (opened : Bool)
  deriving DecidableEq, Repr

/-- Stored files never change, so they may be kept for a day. -/
def cacheControl : String := "public, max-age=86400"

/-- Anybody may read. -/
def publicAccess : String := "publicRead"

namespace Bucket

/-- A bucket of the first kind. An empty address counts as none. -/
def ofEndpoint (bucket region : String) (endpoint : Option String) : Bucket :=
  .simple bucket region (match endpoint with
    | none => none
    | some e => if e = "" then none else some (trimSlashes e))

/-- A bucket of the second kind. -/
def ofAccount (bucket : String) (accountFile : Option String) : Bucket :=
  .google bucket (accountFile.getD "") false

/-- Where an object is found. -/
def url (b : Bucket) (path : String) : String :=
  match b with
  | .simple bucket _ none => "https://" ++ bucket ++ ".s3.amazonaws.com/" ++ path
  | .simple bucket _ (some endpoint) => endpoint ++ "/" ++ bucket ++ "/" ++ path
  | .google bucket _ _ => "https://storage.googleapis.com/" ++ bucket ++ "/" ++ path

/-- What is asked for before an object is, and the bucket afterwards. -/
def connect (b : Bucket) : List Request × Bucket :=
  match b with
  | .simple _ region endpoint => ([.simpleClient region endpoint], b)
  | .google _ _ true => ([], b)
  | .google bucket file false =>
    ([if file = "" then .googleClient else .googleClientFrom file, .googleBucket bucket],
      .google bucket file true)

/-- The request that stores an object. -/
def putRequest (b : Bucket) (path : String) (content : Bytes) : Request :=
  match b with
  | .simple bucket _ _ => .put bucket path content
  | .google _ _ _ => .googleUpload path cacheControl publicAccess content

/-- The request that removes an object. -/
def deleteRequest (b : Bucket) (path : String) : Request :=
  match b with
  | .simple bucket _ _ => .delete bucket path
  | .google _ _ _ => .googleDelete path

/-- The requests that store an object, and the bucket afterwards. -/
def save (b : Bucket) (path : String) (content : Bytes) : List Request × Bucket :=
  let (requests, opened) := b.connect
  (requests ++ [b.putRequest path content], opened)

/-- The requests that remove an object, and the bucket afterwards. -/
def remove (b : Bucket) (path : String) : List Request × Bucket :=
  let (requests, opened) := b.connect
  (requests ++ [b.deleteRequest path], opened)

end Bucket

end Portrait.Storage
