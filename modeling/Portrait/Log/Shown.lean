import Portrait.Json.Basic
import Portrait.Text.Quoted

/-!
# Values for people

* `Decimal.toText` — a number with a point or an exponent.
* `shown` — any value.
-/

namespace Portrait

namespace Decimal

/-- Digits without the zeros at their end, and how many these are. -/
def splitZeros (ds : List Char) : List Char × Nat :=
  let zeros := (ds.reverse.takeWhile (· = '0')).length
  (ds.take (ds.length - zeros), zeros)

/-- Digits with a point after so many of them, zeros being added where they do not suffice. -/
def placePoint (ds : List Char) (point : Int) : List Char :=
  if point ≤ 0 then '0' :: '.' :: (List.replicate (-point).toNat '0' ++ ds)
  else if ds.length ≤ point.toNat then ds ++ List.replicate (point.toNat - ds.length) '0' ++ ['.', '0']
  else ds.take point.toNat ++ '.' :: ds.drop point.toNat

/-- An exponent with its sign and two digits at least. -/
def showExponent (e : Int) : List Char :=
  let ds := Nat.toDigits 10 e.natAbs
  (if e < 0 then '-' else '+') :: (List.replicate (2 - ds.length) '0' ++ ds)

/-- Digits with an exponent. -/
def placeExponent (ds : List Char) (e : Int) : List Char :=
  (match ds with
    | c :: d :: rest => c :: '.' :: d :: rest
    | ds => ds) ++ 'e' :: showExponent e

/-- The number in digits. The point stands where it belongs if the first digit is neither before the
fourth place after it nor beyond the sixteenth place in front of it; else there is an exponent. -/
def toText (d : Decimal) : String :=
  let (ds, zeros) := splitZeros (Nat.toDigits 10 d.mantissa.natAbs)
  let sign := if d.mantissa < 0 then ['-'] else []
  if ds = [] then "0.0"
  else
    let point := d.exponent + zeros + ds.length
    String.ofList (sign ++
      if -4 < point ∧ point ≤ 16 then placePoint ds point else placeExponent ds (point - 1))

end Decimal

namespace Log

/-- A text; what cannot be shown is left out. -/
def plain (s : CodePoints) : String := s.toString?.getD ""

mutual

/-- A value for people, texts in quotes. -/
def shown : Json → String
  | .null => "None"
  | .bool true => "True"
  | .bool false => "False"
  | .whole n => toString n
  | .decimal d => d.toText
  | .nan => "nan"
  | .infinity false => "inf"
  | .infinity true => "-inf"
  | .text s => Text.quote (plain s)
  | .array [] => "[]"
  | .array (j :: rest) => "[" ++ shown j ++ shownItems rest ++ "]"
  | .object [] => "\x7b\x7d"
  | .object ((name, j) :: rest) =>
    "\x7b" ++ Text.quote (plain name) ++ ": " ++ shown j ++ shownMembers rest ++ "\x7d"

/-- The items after the first. -/
def shownItems : List Json → String
  | [] => ""
  | j :: rest => ", " ++ shown j ++ shownItems rest

/-- The members after the first. -/
def shownMembers : List (CodePoints × Json) → String
  | [] => ""
  | (name, j) :: rest => ", " ++ Text.quote (plain name) ++ ": " ++ shown j ++ shownMembers rest

end

/-- The characters for which a text is put in quotes. -/
def delimiters : List Char := [' ', '\t', '=', '\r', '\n', '"', '\'']

/-- A value for people. Texts are in quotes only if they would be misread without. -/
def shownBare : Json → String
  | .text s =>
    let t := plain s
    if t.toList.any delimiters.contains then Text.quote t else t
  | j => shown j

end Log

end Portrait
