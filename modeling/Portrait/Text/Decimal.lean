/-!
# Decimal fractions

A number with a decimal point or an exponent stands for the nearest number of 53 significant bits.

* `Decimal.truncate?` — the whole part of that number.
-/

namespace Portrait

/-- The number `mantissa * 10 ^ exponent`. -/
structure Decimal where
  mantissa : Int
  exponent : Int
  deriving DecidableEq, Repr

namespace Decimal

/-- The quotient rounded to the nearest whole number, a half to the even neighbour. -/
def roundQuotient (num den : Nat) : Nat :=
  let q := num / den
  let r := num % den
  if den < 2 * r ∨ (2 * r = den ∧ q % 2 = 1) then q + 1 else q

/-- The number of bits of a quotient, which is negative for a quotient below one half. -/
def quotientLog (num den : Nat) : Int :=
  let e : Int := (Nat.log2 num : Int) - Nat.log2 den
  if (if 0 ≤ e then num < den <<< e.toNat else num <<< (-e).toNat < den) then e - 1 else e

/-- The whole part of a quotient that is first rounded to 53 significant bits. -/
def wholePart (num den : Nat) : Nat :=
  if num = 0 then 0
  else
    let shift := 52 - quotientLog num den
    if 0 ≤ shift then roundQuotient (num <<< shift.toNat) den >>> shift.toNat
    else roundQuotient num (den <<< (-shift).toNat) <<< (-shift).toNat

/-- The bound that numbers of 53 significant bits in the binary interchange format stay below. -/
def bound : Nat := 1 <<< 1024

/-- The number of decimal digits of a number, at least. -/
def digitCount (n : Nat) : Nat := n.log2 * 3 / 10

/-- The whole part of the number as it is stored, none if it is too great to be stored. -/
def truncate? (d : Decimal) : Option Int :=
  let n := d.mantissa.natAbs
  if n = 0 then some 0
  else if d.exponent + digitCount n > 310 then none
  else
    let whole :=
      if 0 ≤ d.exponent then wholePart (n * Nat.pow 10 d.exponent.toNat) 1
      else if (n.log2 : Int) < -d.exponent * 3 then 0
      else wholePart n (Nat.pow 10 (-d.exponent).toNat)
    if whole < bound then some (d.mantissa.sign * whole) else none

end Decimal

end Portrait
