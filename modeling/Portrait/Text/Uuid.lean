import Portrait.Text.Integer

/-!
# Unique names

Names are numbers of 128 bits, drawn from a supply that is not looked into. They are written in
hexadecimal digits, with or without hyphens.

* `Uuid.hex`, `Uuid.text` — the two ways of writing a number.
* `Uuid.Supply.next` — the next number of a supply.
-/

namespace Portrait.Uuid

/-- The number of hexadecimal digits. -/
def digits : Nat := 32

/-- A number without hyphens. -/
def hex (n : Nat) : String := String.ofList (Text.hexDigits (n % Nat.pow 16 digits) digits)

/-- The lengths of the groups between hyphens. -/
def groupLengths : List Nat := [8, 4, 4, 4, 12]

/-- Characters in groups of these lengths, with a hyphen between them. -/
def hyphenate : List Nat → List Char → List Char
  | [], _ => []
  | [n], cs => cs.take n
  | n :: rest, cs => cs.take n ++ '-' :: hyphenate rest (cs.drop n)

/-- A number with hyphens. -/
def text (n : Nat) : String := String.ofList (hyphenate groupLengths (hex n).toList)

/-- A supply of numbers, and how many of them have been drawn. -/
structure Supply where
  number : Nat → Nat
  drawn : Nat := 0

/-- The next number, and the supply after it. -/
def Supply.next (s : Supply) : Nat × Supply := (s.number s.drawn, { s with drawn := s.drawn + 1 })

end Portrait.Uuid
