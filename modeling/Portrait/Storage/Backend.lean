import Portrait.Settings.Basic
import Portrait.Storage.Cloud

/-!
# Which storage is used

* `Backend.choose` — the storage that the settings ask for.
-/

namespace Portrait.Storage

/-- A storage for files. -/
inductive Backend where
  | files (folder address : String)
  | bucket (b : Bucket)
  deriving DecidableEq, Repr

/-- Why no storage can be used. -/
inductive BackendError where
  /-- A bucket is needed but not named. -/
  | noBucket (setting type : String)
  /-- There is no such storage; none at all may be asked for. -/
  | unsupported (type : Option String)
  deriving DecidableEq, Repr

def BackendError.message : BackendError → String
  | noBucket setting type => setting ++ " must be set when STORAGE_TYPE is " ++ Text.quote type
  | unsupported none => "Unsupported storage type None"
  | unsupported (some type) => "Unsupported storage type " ++ Text.quote type

/-- The name of a bucket, unless it is empty. -/
def bucketName? (name : Option String) : Option String :=
  match name with
  | some b => if b = "" then none else some b
  | none => none

/-- The storage of a type. -/
def Backend.choose (type : Option String) (s : Settings) : Except BackendError Backend :=
  match type with
  | some "local" => .ok (.files s.storagePath s.storageUrl)
  | some "s3" =>
    match bucketName? s.s3Bucket with
    | none => .error (.noBucket "S3_BUCKET" "s3")
    | some b => .ok (.bucket (.ofEndpoint b s.s3Region s.s3Endpoint))
  | some "gcs" =>
    match bucketName? s.gcsBucket with
    | none => .error (.noBucket "GCS_BUCKET" "gcs")
    | some b => .ok (.bucket (.ofAccount b s.gcsAccountFile))
  | type => .error (.unsupported type)

/-- The address of a file. -/
def Backend.url (b : Backend) (path : String) : String :=
  match b with
  | .files _ address => trimSlashes address ++ "/" ++ path
  | .bucket b => b.url path

end Portrait.Storage
