import Portrait.Text.CodePoints

/-!
# Whole numbers in texts

The written forms of whole numbers. In decimal, there may be blanks around an optional sign and digits
of any script, where single low lines may stand between digits; in hexadecimal, there are the digits
alone.

* `hexDigits`, `hexValue?` — the hexadecimal digits of a number, and the value of one of them.
* `Integer.parse?` — the decimal number in a text.
-/

namespace Portrait.Text

/-! ## Hexadecimal digits -/

/-- So many hexadecimal digits of a number, the lowest of them last. -/
def hexDigits (n : Nat) : Nat → List Char
  | 0 => []
  | count + 1 => hexDigits (n / 16) count ++ [Nat.digitChar (n % 16)]

/-- The value of a hexadecimal digit. -/
def hexValue? (code : Nat) : Option Nat :=
  if 0x30 ≤ code ∧ code ≤ 0x39 then some (code - 0x30)
  else if 0x61 ≤ code ∧ code ≤ 0x66 then some (code - 0x61 + 10)
  else if 0x41 ≤ code ∧ code ≤ 0x46 then some (code - 0x41 + 10)
  else none

/-! ## Decimal digits -/

/-- The zeros of the scripts with decimal digits. The digits of a script follow each other. -/
def digitZeros : List Nat :=
  [48, 1632, 1776, 1984, 2406, 2534, 2662, 2790, 2918, 3046, 3174, 3302, 3430, 3558, 3664, 3792, 3872,
    4160, 4240, 6112, 6160, 6470, 6608, 6784, 6800, 6992, 7088, 7232, 7248, 42528, 43216, 43264,
    43472, 43504, 43600, 44016, 65296, 66720, 68912, 69734, 69872, 69942, 70096, 70384, 70736,
    70864, 71248, 71360, 71472, 71904, 72016, 72784, 73040, 73120, 92768, 92864, 93008, 120782,
    120792, 120802, 120812, 120822, 123200, 123632, 125264, 130032]

/-- The value of a decimal digit. -/
def digit? (code : Nat) : Option Nat :=
  digitZeros.findSome? fun first => if first ≤ code ∧ code < first + 10 then some (code - first) else none

namespace Integer

/-- Blanks that may surround a number. The separators of information are not among them. -/
def isMargin (code : Nat) : Bool := isBlank code && !(0x1C ≤ code && code ≤ 0x1F)

/-- The digits of a number. A low line must stand between two digits. -/
def digits? (done : List Nat) : CodePoints → Option (List Nat)
  | [] => some done.reverse
  | c :: rest =>
    match digit? c with
    | some d => digits? (d :: done) rest
    | none =>
      if c = 0x5F ∧ !done.isEmpty then
        match rest with
        | [] => none
        | c :: rest =>
          match digit? c with
          | some d => digits? (d :: done) rest
          | none => none
      else none

/-- The greatest number of digits that is read. -/
def maxDigits : Nat := 4300

/-- The number with these digits. -/
def ofDigits (ds : List Nat) : Nat := ds.foldl (fun n d => n * 10 + d) 0

/-- The number written without sign. -/
def magnitude? (cs : CodePoints) : Option Nat :=
  match digits? [] cs with
  | none => none
  | some ds => if ds = [] ∨ maxDigits < ds.length then none else some (ofDigits ds)

/-- The number in a text. -/
def parse? (cs : CodePoints) : Option Int :=
  match trim isMargin cs with
  | 0x2B :: rest => (magnitude? rest).map Int.ofNat
  | 0x2D :: rest => (magnitude? rest).map fun n => -(n : Int)
  | rest => (magnitude? rest).map Int.ofNat

end Integer

end Portrait.Text
