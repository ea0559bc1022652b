import Portrait.Bytes
import Portrait.Text.CodePoints
import Portrait.Text.Integer

/-!
# What a request is for

The target of a request is a path, perhaps with a query, in which any byte may be written as an
escape.

* `unescape` — the bytes that are meant.
* `pathOfTarget` — the path, without escapes and steps back.
-/

namespace Portrait.Web

/-- The bytes with every escape resolved; what looks like an escape but is none stays. -/
def unescape : Bytes → Bytes
  | 0x25 :: a :: b :: rest =>
    match Text.hexValue? a.toNat, Text.hexValue? b.toNat with
    | some x, some y => UInt8.ofNat (16 * x + y) :: unescape rest
    | _, _ => 0x25 :: unescape (a :: b :: rest)
  | c :: rest => c :: unescape rest
  | [] => []

/-- The character that stands for what cannot be decoded. -/
def replacement : Char := '\uFFFD'

/-- The text of some bytes. If they are no text in UTF-8, nothing but ASCII is read. -/
def decodeText (bs : Bytes) : String :=
  match (CodePoints.ofUtf8? bs).bind CodePoints.toString? with
  | some s => s
  | none => String.ofList (bs.map fun b => if b < 0x80 then Char.ofNat b.toNat else replacement)

/-- The steps of a path without those that stay or lead back. -/
def plainSteps (done : List String) : List String → List String
  | [] => done
  | "." :: rest => plainSteps done rest
  | ".." :: rest => plainSteps (if done = [] ∨ done = [""] then done else done.dropLast) rest
  | step :: rest => plainSteps (done ++ [step]) rest

/-- The path of a target. -/
def pathOfTarget (target : String) : String :=
  let path := String.ofList (target.toList.takeWhile fun c => c ≠ '?' && c ≠ '#')
  decodeText (unescape (Bytes.ofString ("/".intercalate (plainSteps [] (path.splitOn "/")))))

end Portrait.Web
