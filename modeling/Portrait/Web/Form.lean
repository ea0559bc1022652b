import Portrait.Web.Parameters
import Portrait.Web.Target

/-!
# Forms in the body of a request

A form is a list of fields with names. It is written as a list of pairs, in which nothing but texts
can be sent, or in several parts with headers of their own, in which files can be sent too.

* `Field` — a field of a form.
* `fieldsOfPairs` — the fields in a list of pairs.
* `fieldsOfParts` — the fields in parts, unless they are damaged.
-/

namespace Portrait.Web

/-- What is in a field. -/
inductive FieldValue where
  | text (bytes : Bytes)
  | file (bytes : Bytes)
  deriving DecidableEq, Repr

/-- A field of a form. -/
structure Field where
  name : String
  value : FieldValue
  deriving DecidableEq, Repr

/-- Why a form cannot be read. -/
inductive FormError where
  /-- There is no boundary between parts. -/
  | noBoundary
  /-- A part is without a name. -/
  | noName
  /-- A text is too long. -/
  | longText
  | damaged
  deriving DecidableEq, Repr

/-! ## Pairs -/

/-- The text that an encoded one stands for. -/
def decodePairText (bs : Bytes) : String :=
  decodeText (unescape (bs.map fun b => if b = 0x2B then 0x20 else b))

/-- What separates the pair at the start of the bytes from the next: an ampersand, or a semicolon if
no ampersand follows anywhere. -/
def separator (bs : Bytes) : UInt8 := if bs.contains 0x26 then 0x26 else 0x3B

/-- The field in a pair. What is not a name with a value is passed over. -/
def fieldOfPair (pair : Bytes) : Option Field :=
  let name := pair.takeWhile (· ≠ 0x3D)
  if name.length = pair.length then none
  else some ⟨decodePairText name, .text (Bytes.ofString (decodePairText (pair.drop (name.length + 1))))⟩

/-- What is left after separators. -/
def skipSeparators (bs : Bytes) : Bytes := bs.dropWhile fun b => b = 0x26 || b = 0x3B

/-- The fields in a list of pairs. -/
def fieldsOfPairs (bs : Bytes) : List Field :=
  if _h : skipSeparators bs = [] then []
  else
    let pair := (skipSeparators bs).takeWhile (· ≠ separator (skipSeparators bs))
    (fieldOfPair pair).toList ++ fieldsOfPairs ((skipSeparators bs).drop (pair.length + 1))
termination_by bs.length
decreasing_by
  have := List.length_pos_iff.2 _h
  have : (skipSeparators bs).length ≤ bs.length := (List.dropWhile_suffix _).length_le
  simp only [List.length_drop]
  omega

/-! ## Parts -/

/-- What is before and after the first occurrence of a mark. -/
def splitAtMark? (mark : Bytes) (done : Bytes) : Bytes → Option (Bytes × Bytes)
  | [] => none
  | b :: rest =>
    if mark.isPrefixOf (b :: rest) then some (done.reverse, (b :: rest).drop mark.length)
    else splitAtMark? mark (b :: done) rest

def lineEnd : Bytes := [0x0D, 0x0A]

def hyphens : Bytes := [0x2D, 0x2D]

/-- The characters in names of headers. -/
def isTokenByte (b : UInt8) : Bool :=
  (0x30 ≤ b && b ≤ 0x39) || (0x41 ≤ b && b ≤ 0x5A) || (0x5E ≤ b && b ≤ 0x7A) ||
    [0x21, 0x23, 0x24, 0x25, 0x26, 0x27, 0x2A, 0x2B, 0x2D, 0x2E, 0x7C, 0x7E].contains b

/-- A text with one character per byte. -/
def textOfBytes (bs : Bytes) : String := String.ofList (bs.map fun b => Char.ofNat b.toNat)

/-- A header of a part: its name in lower case and its value. -/
def headerOfLine? (line : Bytes) : Option (String × String) :=
  let name := line.takeWhile (· ≠ 0x3A)
  if name = [] ∨ name.length = line.length ∨ !name.all isTokenByte then none
  else
    some ((textOfBytes name).map Char.toLower,
      textOfBytes ((line.drop (name.length + 1)).dropWhile (· = 0x20)))

/-- The headers of a part up to an empty line, and what follows. None if they are damaged or do not
end. -/
def readHeaders (fuel : Nat) (bs : Bytes) : Except FormError (Option (List (String × String) × Bytes)) :=
  match fuel with
  | 0 => .ok none
  | fuel + 1 =>
    match bs with
    | 0x0D :: 0x0A :: rest => .ok (some ([], rest))
    | bs =>
      match splitAtMark? lineEnd [] bs with
      | none => .ok none
      | some (line, rest) =>
        match headerOfLine? line with
        | none => .error .damaged
        | some h =>
          match readHeaders fuel rest with
          | .error e => .error e
          | .ok none => .ok none
          | .ok (some (hs, rest)) => .ok (some (h :: hs, rest))

/-- The content of a part up to the next boundary, what follows that, and whether it was the last
one. A boundary is one only if a line end or two hyphens follow it. -/
def readContent (mark : Bytes) (done : Bytes) (bs : Bytes) : Option (Bytes × Option Bytes) :=
  match bs with
  | [] => none
  | b :: rest =>
    let after := (b :: rest).drop mark.length
    if mark.isPrefixOf (b :: rest) && lineEnd.isPrefixOf after then
      some (done.reverse, some (after.drop lineEnd.length))
    else if mark.isPrefixOf (b :: rest) && hyphens.isPrefixOf after then some (done.reverse, none)
    else readContent mark (b :: done) rest

/-- Texts have at most this many bytes. -/
def maxText : Nat := 1024 * 1024

/-- The field that a part with these headers holds. -/
def fieldOfPart (headers : List (String × String)) (content : Bytes) : Except FormError Field :=
  let disposition := Parameters.parse ((headers.lookup "content-disposition").getD "")
  match disposition.get? "name", disposition.get? "filename" with
  | none, _ => .error .noName
  | some name, some _ => .ok ⟨name, .file content⟩
  | some name, none =>
    if maxText < content.length then .error .longText else .ok ⟨name, .text content⟩

/-- The fields in the parts that follow a boundary. A part that does not end is passed over. -/
def readParts (mark : Bytes) (fuel : Nat) (bs : Bytes) : Except FormError (List Field) :=
  match fuel with
  | 0 => .ok []
  | fuel + 1 =>
    match readHeaders bs.length bs with
    | .error e => .error e
    | .ok none => .ok []
    | .ok (some (headers, content)) =>
      match readContent mark [] content with
      | none => (fieldOfPart headers []).map fun _ => []
      | some (content, rest) =>
        match fieldOfPart headers content with
        | .error e => .error e
        | .ok field =>
          match rest with
          | none => .ok [field]
          | some rest => (readParts mark fuel rest).map (field :: ·)

/-- The fields in parts that are separated by a boundary. -/
def fieldsOfParts (boundary : String) (bs : Bytes) : Except FormError (List Field) :=
  let bs := bs.dropWhile fun b => b = 0x0D || b = 0x0A
  let opening := hyphens ++ Bytes.ofString boundary
  if bs = [] ∨ bs.isPrefixOf opening then .ok []
  else if opening.isPrefixOf bs then
    match bs.drop opening.length with
    | 0x0D :: 0x0A :: rest => readParts (lineEnd ++ opening) bs.length rest
    | [0x0D] => .ok []
    | 0x2D :: _ => .ok []
    | _ => .error .damaged
  else .error .damaged

end Portrait.Web
