import Portrait.Form.Body
import Portrait.Form.Whole
import Portrait.Json.Printer
import Portrait.Token.Verify
import Portrait.Web.Rejection

/-!
# Requests

* `Request` — what is sent.
* `Request.sent` — the value in the body.
* `Request.fields`, `Request.uploaded` — the fields of a form, and the picture among them.
* `Request.memberIn` — the member in a path.
-/

namespace Portrait.Web

/-- The body of a request. A value or a form that was written by the book may stand for itself. -/
inductive Body where
  | nothing
  | bytes (bs : Bytes)
  | value (j : Json)
  | fields (fs : List Field)

/-- A request. -/
structure Request where
  method : String
  path : String
  headers : List (String × String) := []
  body : Body := .nothing
  /-- How nested values are dealt with that are read for the request. This is not sent: it is up to the
  machine and to the libraries on it. -/
  nesting : Token.Nesting := {}

/-- A text in lower case. -/
def lower (s : String) : String := s.map Char.toLower

namespace Request

/-- The first header with a name, in letters of any case. -/
def header? (r : Request) (name : String) : Option String :=
  (r.headers.find? fun h => lower h.1 == name).map Prod.snd

/-- The type of the body, if there is a header for it. -/
def type? (r : Request) : Option String := r.header? "content-type"

/-- Does a type stand for values in the JavaScript object notation? -/
def isJsonType (type : String) : Bool :=
  match (lower (Text.strip (String.ofList (type.toList.takeWhile (· ≠ ';'))))).splitOn "/" with
  | [main, sub] => main = "application" && (sub = "json" || sub.endsWith "+json")
  | _ => false

/-- Is the body said to be a value? -/
def isJson (r : Request) : Bool :=
  match r.type?, r.body with
  | some type, _ => isJsonType type
  | none, .value _ => true
  | none, _ => false

/-! ## Values -/

/-- What was sent. -/
inductive Sent where
  | nothing
  | value (j : Json)
  | other

/-- Null is nothing. -/
def Sent.ofJson : Json → Sent
  | .null => nothing
  | j => value j

/-- The place of the body. -/
def inBody (c : Complaint) : Complaint := c.within (.name "body")

/-- A body that is no value, from some place on. -/
def badJsonAt (place : Nat) : Rejection := .invalid [inBody ⟨[.index place], .badJson⟩]

/-- The value in encoded bytes. -/
def readValue (depth : Nat) (bs : Bytes) : Except Rejection Sent :=
  match Json.ofBytes depth bs with
  | .ok j => .ok (.ofJson j)
  | .error (.badSyntax place) => .error (badJsonAt place)
  | .error _ => .error .unreadable

/-- What was sent in the body. -/
def sent (r : Request) : Except Rejection Sent :=
  match r.body with
  | .nothing => .ok .nothing
  | .bytes bs =>
    if bs = [] then .ok .nothing else if r.isJson then readValue r.nesting.depth bs else .ok .other
  | .value j => .ok (if r.isJson then .ofJson j else .other)
  | .fields _ => if r.isJson then .error (badJsonAt 0) else .ok .other

/-- The text in a form that was sent. -/
def Sent.read (s : Sent) (form : Problem → Json → Except Complaint String) : Except Complaint String :=
  let text : Except Complaint String := match s with
    | nothing => .error ⟨[], .missing⟩
    | value j => form .notFields j
    | other => .error ⟨[], .notFields⟩
  match text with
  | .error c => .error (inBody c)
  | .ok s => .ok s

/-! ## Forms -/

/-- The type of forms in parts. -/
def partsType : String := "multipart/form-data"

/-- The type of forms in pairs. -/
def pairsType : String := "application/x-www-form-urlencoded"

/-- A type with its parameters. Letters of any case will do if there are none. -/
def formType (type : String) : Parameters :=
  let p := Parameters.parse type
  if type.toList.contains ';' then p else { p with value := lower p.value }

/-- The fields in bytes of a type. -/
def fieldsOfBytes (type : Option String) (bs : Bytes) : Except FormError (List Field) :=
  match type with
  | none => .ok []
  | some type =>
    let p := formType type
    if p.value = partsType then
      match p.get? "boundary" with
      | none => .error .noBoundary
      | some boundary => fieldsOfParts boundary bs
    else if p.value = pairsType then .ok (fieldsOfPairs bs)
    else .ok []

/-- Is the field a text that is too long? -/
def isLong (f : Field) : Bool :=
  match f.value with
  | .text bs => maxText < bs.length
  | .file _ => false

/-- The fields of a form that was written by the book, but may have been given another type. -/
def fieldsOfForm (type : Option String) (fs : List Field) : Except FormError (List Field) :=
  match type with
  | none => if fs.any isLong then .error .longText else .ok fs
  | some type =>
    let p := formType type
    if p.value = partsType then
      .error (if (p.get? "boundary").isNone then .noBoundary else .damaged)
    else .ok []

/-- The fields that were sent. -/
def fields (r : Request) : Except FormError (List Field) :=
  match r.body with
  | .nothing => fieldsOfBytes r.type? []
  | .bytes bs => fieldsOfBytes r.type? bs
  | .value j => fieldsOfBytes r.type? (j.print.map UInt8.ofNat)
  | .fields fs => fieldsOfForm r.type? fs

/-- The field that holds a picture. -/
def pictureField : String := "avatar"

/-- The place of that field. -/
def atPicture (p : Problem) : Complaint := inBody ⟨[.name pictureField], p⟩

/-- The file in the last field for a picture. -/
def uploaded (fs : List Field) : Except Complaint Bytes :=
  match fs.reverse.find? fun f => f.name == pictureField with
  | none => .error (atPicture .missing)
  | some ⟨_, .text []⟩ => .error (atPicture .missing)
  | some ⟨_, .text _⟩ => .error (atPicture .notFile)
  | some ⟨_, .file bs⟩ => .ok bs

/-! ## Paths -/

/-- The number of a member in a path. -/
def memberIn (text : String) : Except Complaint Int :=
  match Form.wholeOfText (CodePoints.ofString text) with
  | .error p => .error ⟨[.name "path", .name "user_id"], p⟩
  | .ok n => .ok n

end Request

/-- Both of two values, or all complaints about them. -/
def both {α β : Type} (a : Except Complaint α) (b : Except Complaint β) : Except Rejection (α × β) :=
  match a, b with
  | .ok a, .ok b => .ok (a, b)
  | .error c, .ok _ => .error (.invalid [c])
  | .ok _, .error d => .error (.invalid [d])
  | .error c, .error d => .error (.invalid [c, d])

/-- A value, or the complaint about it. -/
def single {α : Type} (a : Except Complaint α) : Except Rejection α :=
  match a with
  | .ok a => .ok a
  | .error c => .error (.invalid [c])

end Portrait.Web
