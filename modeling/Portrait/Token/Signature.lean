import Portrait.Token.Sha2

/-!
# Signing with a shared secret

* `Algorithm` — the ways of signing, and their names.
* `Algorithm.sign` — the signature of a message. Texts of key files do not serve as secrets.
-/

namespace Portrait.Token

/-- A way of signing. -/
inductive Algorithm where
  | sha256
  | sha384
  | sha512
  /-- No signature at all, which needs the empty secret. -/
  | unsigned
  deriving DecidableEq, Repr

namespace Algorithm

def name : Algorithm → String
  | sha256 => "HS256"
  | sha384 => "HS384"
  | sha512 => "HS512"
  | unsigned => "none"

def all : List Algorithm := [sha256, sha384, sha512, unsigned]

/-- The way of signing with a name. -/
def ofName? (s : String) : Option Algorithm := all.find? fun a => a.name == s

end Algorithm

/-- Does this hold of the bytes from some place on? -/
def fromSomewhere (p : Bytes → Bool) : Bytes → Bool
  | [] => p []
  | b :: rest => p (b :: rest) || fromSomewhere p rest

/-- What a key file in armour may hold. -/
def armoured : List String :=
  ["CERTIFICATE", "TRUSTED CERTIFICATE", "PRIVATE KEY", "PUBLIC KEY", "ENCRYPTED PRIVATE KEY",
    "OPENSSH PRIVATE KEY", "DSA PRIVATE KEY", "RSA PRIVATE KEY", "RSA PUBLIC KEY", "EC PRIVATE KEY",
    "DH PARAMETERS", "NEW CERTIFICATE REQUEST", "CERTIFICATE REQUEST", "SSH2 PUBLIC KEY",
    "SSH2 ENCRYPTED PRIVATE KEY", "X509 CRL"]

/-- The forms of a boundary line around a word and what is in the armour. -/
def boundaries (word kind : String) : List Bytes :=
  ["-", " "].flatMap fun before => ["-", " "].map fun after =>
    Bytes.ofString ("----" ++ before ++ word ++ " " ++ kind ++ after ++ "----")

/-- Do these bytes begin with a line that ends an armour, after a line end? -/
def closes (kind : String) (bs : Bytes) : Bool :=
  (boundaries "END" kind).any fun line => (0x0A :: line).isPrefixOf bs

/-- What is left of these bytes after a line that opens an armour. -/
def afterOpening? (kind : String) (bs : Bytes) : Option Bytes :=
  (boundaries "BEGIN" kind).findSome? fun line =>
    if line.isPrefixOf bs then
      match bs.drop line.length with
      | 0x0D :: 0x0A :: rest => some rest
      | 0x0A :: rest => some rest
      | _ => none
    else none

/-- Is there an armour of this kind, with something in it, in the bytes? -/
def hasArmour (kind : String) (bs : Bytes) : Bool :=
  fromSomewhere (fun s =>
    match afterOpening? kind s with
    | some inner => fromSomewhere (closes kind) (inner.drop 1)
    | none => false) bs

/-- The names of the kinds of keys for remote shells. -/
def shellKeys : List String :=
  ["ssh-ed25519", "ssh-rsa", "ssh-dss", "ecdsa-sha2-nistp256", "ecdsa-sha2-nistp384",
    "ecdsa-sha2-nistp521"]

/-- Is the text that of a key file? -/
def isKeyFile (secret : Bytes) : Bool :=
  armoured.any (fun kind => hasArmour kind secret) ||
    shellKeys.any fun kind => fromSomewhere (Bytes.ofString kind).isPrefixOf secret

namespace Algorithm

/-- The hash of a way of signing. -/
def hash? : Algorithm → Option Sha2.Variant
  | sha256 => some Sha2.sha256
  | sha384 => some Sha2.sha384
  | sha512 => some Sha2.sha512
  | unsigned => none

/-- The signature of a message, none if the secret is refused. -/
def sign (a : Algorithm) (secret : String) (message : Bytes) : Option Bytes :=
  match a.hash? with
  | none => if secret = "" then some [] else none
  | some v =>
    let key := Bytes.ofString secret
    if isKeyFile key then none else some (v.authenticate key message)

/-- Is this the signature of a message? Nothing is the signature of an unsigned one; the question has
no answer if the secret is refused. -/
def verify (a : Algorithm) (secret : String) (message signature : Bytes) : Option Bool :=
  (a.sign secret message).map fun s => a.hash?.isSome && s == signature

end Algorithm

end Portrait.Token
