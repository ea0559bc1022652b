import Portrait.Form.Body
import Portrait.Form.Whole
import Portrait.Json.Parser
import Portrait.Settings.Basic
import Portrait.Settings.Dotenv

/-!
# Where settings come from

A setting is taken from the first source that gives it: explicit values, the environment, a file,
the default.

* `Settings.read` — the settings in these sources, or all complaints about them.
-/

namespace Portrait.Settings

/-- The sources of settings. -/
structure Sources where
  /-- Explicit values. -/
  explicit : List (CodePoints × Json) := []
  environment : List (String × String) := []
  /-- The text of a file of settings. -/
  file : String := ""
  /-- How deeply structured values may be nested. -/
  depth : Nat := Json.usualDepth

/-- A text from the environment or the file, if there is one. -/
def Sources.text? (s : Sources) (name : String) : Option String :=
  match s.environment.reverse.find? fun b => b.1 == name with
  | some b => some b.2
  | none => (Dotenv.lookup (Dotenv.resolve s.environment s.file) name).join

/-- An explicit value, if there is one. -/
def Sources.explicit? (s : Sources) (name : String) : Option Json :=
  (Json.object s.explicit).get? (CodePoints.ofString name)

/-- A value from any source. -/
def Sources.value? (s : Sources) (name : String) : Option Json :=
  match s.explicit? name with
  | some j => some j
  | none => (s.text? name).map fun t => .text (CodePoints.ofString t)

/-- The value that a text from the environment or the file stands for, if it may be structured: what
it says in the JavaScript object notation, or else itself. Null stands for nothing. -/
def structured? (depth : Nat) (t : String) : Option Json :=
  match Json.parse depth (CodePoints.ofString t) with
  | .error _ => some (.text (CodePoints.ofString t))
  | .ok .null => none
  | .ok j => some j

/-- A value from any source that may be structured. -/
def Sources.structured? (s : Sources) (name : String) : Option Json :=
  match s.explicit? name with
  | some j => some j
  | none =>
    match (s.environment.reverse.find? fun b => b.1 == name).bind fun b =>
        Settings.structured? s.depth b.2 with
    | some j => some j
    | none =>
      (Dotenv.lookup (Dotenv.resolve s.environment s.file) name).join.bind
        (Settings.structured? s.depth)

/-- The words for yes and no. -/
def switchWords : List (String × Bool) :=
  [("1", true), ("on", true), ("t", true), ("true", true), ("y", true), ("yes", true), ("0", false),
    ("off", false), ("f", false), ("false", false), ("n", false), ("no", false)]

/-- Yes or no, as a word. -/
def switchOfWord (s : String) : Except Problem Bool :=
  match switchWords.find? fun w => w.1 == s.map Char.toLower with
  | some w => .ok w.2
  | none => .error .unreadableSwitch

/-- Yes or no, as a number. -/
def switchOfWhole (n : Int) : Except Problem Bool :=
  if n = 0 then .ok false else if n = 1 then .ok true else .error .unreadableSwitch

/-- Yes or no in a value. -/
def switchOf (j : Json) : Except Problem Bool :=
  match j with
  | .bool b => .ok b
  | .whole n => switchOfWhole n
  | .text s =>
    match s.toString? with
    | some s => switchOfWord s
    | none => .error .badText
  | .decimal d =>
    match Form.wholeOf (.decimal d) with
    | .ok n => switchOfWhole n
    | .error _ => .error .notSwitch
  | _ => .error .notSwitch

/-- The text in a value, which may be absent. -/
def optionalTextOf (j : Json) : Except Problem (Option String) :=
  match j with
  | .null => .ok none
  | j => (Form.readText j).map some

/-- One of some words; the pattern spells them out. -/
def choiceOf (words : List String) (j : Json) : Except Problem String :=
  match Form.readText j with
  | .error p => .error p
  | .ok s =>
    if words.contains s then .ok s else .error (.noMatch ("^(" ++ "|".intercalate words ++ ")$"))

/-- Reading settings: the complaints so far are at hand. -/
abbrev Reading := StateM (List Complaint)

/-- The name of a setting as a place. -/
def complain (name : String) (p : Problem) : Reading Unit :=
  modify (· ++ [⟨[.name name], p⟩])

/-- A setting that holds by default. -/
def setting {α : Type} (s : Sources) (name : String) (read : Json → Except Problem α) (default : α) :
    Reading α :=
  match s.value? name with
  | none => pure default
  | some j =>
    match read j with
    | .ok a => pure a
    | .error p => do
      complain name p
      pure default

/-- A text that must be set. -/
def requiredText (s : Sources) (name : String) : Reading String :=
  match s.value? name with
  | none => do
    complain name .missing
    pure ""
  | some _ => setting s name Form.readText ""

/-- The complaints about the items of a list of sites. -/
def originComplaints (name : String) (place : Nat) : List Json → List Complaint
  | [] => []
  | j :: rest =>
    match Form.readText j with
    | .ok _ => originComplaints name (place + 1) rest
    | .error p =>
      ⟨[.name name, .name "list[str]", .index place], p⟩ :: originComplaints name (place + 1) rest

/-- A list of sites, or a text in which they are separated by commas. What is neither is complained
of twice. -/
def origins (s : Sources) (name : String) (default : List String) : Reading (List String) :=
  match s.structured? name with
  | none => pure default
  | some (.text t) =>
    match t.toString? with
    | some t => pure ((t.splitOn ",").map Text.strip)
    | none => do
      modify (· ++ [⟨[.name name, .name "list[str]", .index 0], .badText⟩])
      pure default
  | some (.array items) => do
    match originComplaints name 0 items with
    | [] => pure (items.filterMap fun j => (Form.readText j).toOption)
    | complaints =>
      modify (· ++ ⟨[.name name, .name "str"], .notText⟩ :: complaints)
      pure default
  | some _ => do
    modify (· ++ [⟨[.name name, .name "str"], .notText⟩, ⟨[.name name, .name "list[str]"], .notList⟩])
    pure default

/-- All settings, with the complaints about them in order. -/
def readAll (s : Sources) : Reading Settings := do
  let d : Settings := { secretKey := "" }
  let projectName ← setting s "PROJECT_NAME" Form.readText d.projectName
  let version ← setting s "VERSION" Form.readText d.version
  let environment ←
    setting s "ENVIRONMENT" (choiceOf ["development", "staging", "production"]) d.environment
  let debug ← setting s "DEBUG" switchOf d.debug
  let routePrefix ← setting s "API_V1_STR" Form.readText d.routePrefix
  let secretKey ← requiredText s "SECRET_KEY"
  let algorithm ← setting s "ALGORITHM" Form.readText d.algorithm
  let tokenMinutes ← setting s "ACCESS_TOKEN_EXPIRE_MINUTES" Form.wholeOf d.tokenMinutes
  let corsOrigins ← origins s "CORS_ORIGINS" d.corsOrigins
  let databaseUrl ← setting s "DATABASE_URL" Form.readText d.databaseUrl
  let databasePool ← setting s "DB_POOL_SIZE" Form.wholeOf d.databasePool
  let databaseOverflow ← setting s "DB_MAX_OVERFLOW" Form.wholeOf d.databaseOverflow
  let databaseEcho ← setting s "DB_ECHO" switchOf d.databaseEcho
  let storageType ← setting s "STORAGE_TYPE" (choiceOf ["local", "s3", "gcs"]) d.storageType
  let storagePath ← setting s "STORAGE_PATH" Form.readText d.storagePath
  let storageUrl ← setting s "STORAGE_BASE_URL" Form.readText d.storageUrl
  let s3Bucket ← setting s "S3_BUCKET" optionalTextOf d.s3Bucket
  let s3Region ← setting s "S3_REGION" Form.readText d.s3Region
  let s3Endpoint ← setting s "S3_ENDPOINT" optionalTextOf d.s3Endpoint
  let gcsBucket ← setting s "GCS_BUCKET" optionalTextOf d.gcsBucket
  let gcsAccountFile ← setting s "GCS_SERVICE_ACCOUNT_FILE" optionalTextOf d.gcsAccountFile
  let avatarSize ← setting s "AVATAR_SIZE" Form.wholeOf d.avatarSize
  let avatarMinSide ← setting s "AVATAR_MIN_DIMENSION" Form.wholeOf d.avatarMinSide
  let avatarMaxSide ← setting s "AVATAR_MAX_DIMENSION" Form.wholeOf d.avatarMaxSide
  let avatarQuality ← setting s "AVATAR_JPEG_QUALITY" Form.wholeOf d.avatarQuality
  let maxUpload ← setting s "MAX_AVATAR_UPLOAD_SIZE" Form.wholeOf d.maxUpload
  let letterFont ← setting s "LETTER_AVATAR_FONT" optionalTextOf d.letterFont
  let logLevel ← setting s "LOG_LEVEL" Form.readText d.logLevel
  pure {
    projectName, version, environment, debug, routePrefix, secretKey, algorithm, tokenMinutes,
    corsOrigins, databaseUrl, databasePool, databaseOverflow, databaseEcho, storageType, storagePath,
    storageUrl, s3Bucket, s3Region, s3Endpoint, gcsBucket, gcsAccountFile, avatarSize, avatarMinSide,
    avatarMaxSide, avatarQuality, maxUpload, letterFont, logLevel }

/-- The settings in these sources, or all complaints about them. -/
def read (s : Sources) : Except (List Complaint) Settings :=
  match (readAll s).run [] with
  | (settings, []) => .ok settings
  | (_, complaints) => .error complaints

end Portrait.Settings
