import Portrait.Json.Basic
import Portrait.Text.Integer

/-!
# Writing the JavaScript object notation

* `Json.print` — a value without blanks, in ASCII.
-/

namespace Portrait.Json

/-- A unit as an escape. -/
def escapeUnit (u : Nat) : CodePoints :=
  0x5C :: 0x75 :: (Text.hexDigits u 4).map Char.toNat

/-- A code point within quotes. -/
def printCode (code : Nat) : CodePoints :=
  match code with
  | 0x22 => [0x5C, 0x22]
  | 0x5C => [0x5C, 0x5C]
  | 0x08 => [0x5C, 0x62]
  | 0x0C => [0x5C, 0x66]
  | 0x0A => [0x5C, 0x6E]
  | 0x0D => [0x5C, 0x72]
  | 0x09 => [0x5C, 0x74]
  | _ =>
    if 0x20 ≤ code ∧ code ≤ 0x7E then [code]
    else if code < 0x10000 then escapeUnit code
    else escapeUnit (0xD800 + (code - 0x10000) / 0x400) ++ escapeUnit (0xDC00 + (code - 0x10000) % 0x400)

/-- A text in quotes. -/
def printText (s : CodePoints) : CodePoints := 0x22 :: s.flatMap printCode ++ [0x22]

mutual

/-- The value as a text. -/
def print : Json → CodePoints
  | null => CodePoints.ofString "null"
  | bool true => CodePoints.ofString "true"
  | bool false => CodePoints.ofString "false"
  | whole n => CodePoints.ofString (toString n)
  | decimal d =>
    CodePoints.ofString (toString d.mantissa) ++ 0x65 :: CodePoints.ofString (toString d.exponent)
  | nan => CodePoints.ofString "NaN"
  | infinity false => CodePoints.ofString "Infinity"
  | infinity true => CodePoints.ofString "-Infinity"
  | text s => printText s
  | array [] => [0x5B, 0x5D]
  | array (j :: rest) => 0x5B :: print j ++ printItems rest
  | object [] => [0x7B, 0x7D]
  | object ((name, j) :: rest) => 0x7B :: printText name ++ 0x3A :: print j ++ printMembers rest

/-- The items after the first, and the end of the array. -/
def printItems : List Json → CodePoints
  | [] => [0x5D]
  | j :: rest => 0x2C :: print j ++ printItems rest

/-- The members after the first, and the end of the object. -/
def printMembers : List (CodePoints × Json) → CodePoints
  | [] => [0x7D]
  | (name, j) :: rest => 0x2C :: printText name ++ 0x3A :: print j ++ printMembers rest

end

end Portrait.Json
