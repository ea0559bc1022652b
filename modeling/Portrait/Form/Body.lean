import Portrait.Form.Problem
import Portrait.Json.Basic
import Portrait.Text.Base64
import Portrait.Text.CodePoints

/-!
# Forms

What members send to change their name or their picture: objects with one text each.

* `Form.readName` — a display name, without blanks at its ends.
* `Form.readPicture` — the text of a picture in base 64.
* `Form.decodedSize`, `Form.decodePicture` — the size of that picture, which is known before it is
  decoded, and its bytes.
-/

namespace Portrait.Form

/-- The text in a value. -/
def readText (j : Json) : Except Problem String :=
  match j with
  | .text s =>
    match s.toString? with
    | some s => .ok s
    | none => .error .badText
  | _ => .error .notText

/-- The text of a member of an object. `shape` says what is wrong with any other value. -/
def readMember (shape : Problem) (name : String) (check : String → Except Problem String) (j : Json) :
    Except Complaint String :=
  match j with
  | .object _ =>
    match j.get? (CodePoints.ofString name) with
    | none => .error ⟨[.name name], .missing⟩
    | some j =>
      match readText j with
      | .error p => .error ⟨[.name name], p⟩
      | .ok s =>
        match check s with
        | .error p => .error ⟨[.name name], p⟩
        | .ok s => .ok s
  | _ => .error ⟨[], shape⟩

/-- The greatest length of a display name, blanks included. -/
def maxNameLength : Nat := 64

/-- A display name without blanks at its ends, if it is neither empty nor too long nor blank. -/
def checkName (s : String) : Except Problem String :=
  if s = "" then .error .tooShort
  else if maxNameLength < s.length then .error (.tooLong maxNameLength)
  else if Text.strip s = "" then .error .blankName
  else .ok (Text.strip s)

/-- A text that is not empty. -/
def checkPicture (s : String) : Except Problem String :=
  if s = "" then .error .tooShort else .ok s

/-- The display name in a form. -/
def readName (shape : Problem) (j : Json) : Except Complaint String :=
  readMember shape "name" checkName j

/-- The text of a picture in a form. -/
def readPicture (shape : Problem) (j : Json) : Except Complaint String :=
  readMember shape "avatar" checkPicture j

/-- A form for a display name that is read on its own. -/
def lonelyName : Problem := .notForm "NameUpdate"

/-- A form for a picture that is read on its own. -/
def lonelyPicture : Problem := .notForm "AvatarUpload"

/-- The size of a picture in base 64: three bytes for four characters. Padding counts like any other
character, so that the picture may be shorter. -/
def decodedSize (s : String) : Nat := s.length * 3 / 4

/-- Why the text of a picture cannot be decoded. -/
inductive DecodeError where
  | notAscii
  | notBase64
  deriving DecidableEq, Repr

def DecodeError.message : DecodeError → String
  | notAscii => "string argument should contain only ASCII characters"
  | notBase64 => "invalid base64 data"

/-- The bytes of a picture. -/
def decodePicture (s : String) : Except DecodeError Bytes :=
  if s.all (fun c : Char => decide (c.toNat < 128)) then
    match Base64.decode? (Bytes.ofString s) with
    | some bs => .ok bs
    | none => .error .notBase64
  else .error .notAscii

end Portrait.Form
