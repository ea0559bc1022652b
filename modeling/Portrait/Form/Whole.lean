import Portrait.Form.Problem
import Portrait.Json.Basic
import Portrait.Text.CodePoints
import Portrait.Text.Integer

/-!
# Whole numbers that were sent

* `Form.wholeOfText` — the number in a text.
* `Form.wholeOf` — the number in any value.
-/

namespace Portrait.Form

/-- Is the code point an ASCII digit? -/
def isDigit (code : Nat) : Bool := 0x30 ≤ code && code ≤ 0x39

/-- The number in plain digits after an optional minus sign. A zero must stand alone. -/
def plainWhole? (cs : CodePoints) : Except Problem Int :=
  let negative := cs.head? = some 0x2D
  let ds := if negative then cs.drop 1 else cs
  if ds = [] ∨ !ds.all isDigit ∨ (ds.head? = some 0x30 ∧ ds ≠ [0x30]) then .error .unreadableWhole
  else if Text.Integer.maxDigits < ds.length then .error .longWhole
  else
    let n : Int := Text.Integer.ofDigits (ds.map (· - 0x30))
    .ok (if negative then -n else n)

/-- A number after its leading zeros, of which one is kept if nothing else is left before a point.
None if it does not begin with a digit or a minus sign, or if anything but digits, low lines or a
point follows the zeros. -/
def dropZeros (cs : CodePoints) : Option CodePoints :=
  match cs with
  | 0x30 :: rest =>
    let zeros := rest.takeWhile fun c => c = 0x30 || c = 0x5F
    match rest.drop zeros.length with
    | [] => some ((0x30 :: zeros).drop zeros.length)
    | c :: after =>
      if c = 0x2E then some ((0x30 :: zeros).drop zeros.length ++ c :: after)
      else if isDigit c then some (c :: after)
      else none
  | c :: _ => if isDigit c || c = 0x2D then some cs else none
  | [] => none

/-- A number without a point that only zeros follow. -/
def dropFraction (cs : CodePoints) : CodePoints :=
  match cs.dropWhile (· ≠ 0x2E) with
  | _ :: after => if after.all (· = 0x30) then cs.takeWhile (· ≠ 0x2E) else cs
  | [] => cs

/-- Does the text hold two low lines next to each other? -/
def hasDoubleLine : CodePoints → Bool
  | 0x5F :: 0x5F :: _ => true
  | _ :: rest => hasDoubleLine rest
  | [] => false

/-- A number without low lines, if they stand singly between other characters. -/
def dropLines (cs : CodePoints) : CodePoints :=
  if cs.head? = some 0x5F ∨ cs.getLast? = some 0x5F ∨ hasDoubleLine cs then cs
  else cs.filter (· ≠ 0x5F)

/-- A number without a plus sign; none if a minus sign follows it. -/
def dropPlus (cs : CodePoints) : Option CodePoints :=
  match cs with
  | 0x2B :: 0x2D :: _ => none
  | 0x2B :: rest => some rest
  | _ => some cs

/-- The whole number in a text. There may be blanks around it, a plus sign, leading zeros, low lines
between digits, and a fraction of zeros. -/
def wholeOfText (cs : CodePoints) : Except Problem Int :=
  match (dropPlus (Text.trim Text.Integer.isMargin cs)).bind dropZeros with
  | none => .error .unreadableWhole
  | some cs => plainWhole? (dropLines (dropFraction cs))

/-- The whole number in a value. -/
def wholeOf (j : Json) : Except Problem Int :=
  match j with
  | .whole n => .ok n
  | .bool b => .ok (if b then 1 else 0)
  | .text s => wholeOfText s
  | .decimal d =>
    match d.truncate? with
    | none => .error .notFinite
    | some n =>
      if d.mantissa = n * (Nat.pow 10 (-d.exponent).toNat : Nat) ∨ 0 ≤ d.exponent then .ok n
      else .error .fractional
  | .nan => .error .notFinite
  | .infinity _ => .error .notFinite
  | _ => .error .notWhole

end Portrait.Form
