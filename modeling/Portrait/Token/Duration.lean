import Portrait.Text.Decimal

/-!
# Spans of time

A span is a whole number of microseconds, which may be negative.

* `Duration.ofParts` — the span that is so many units of each kind.
* `Duration.isRepresentable` — is it short enough to be reckoned with?
* `Calendar.hasDate` — has a moment a date, that is, is it in the years from 1 to 9999?
-/

namespace Portrait

/-- The units of time. -/
inductive TimeUnit where
  | weeks
  | days
  | hours
  | minutes
  | seconds
  | milliseconds
  | microseconds
  deriving DecidableEq, Repr

/-- A unit in microseconds. -/
def TimeUnit.length : TimeUnit → Nat
  | weeks => 604800000000
  | days => 86400000000
  | hours => 3600000000
  | minutes => 60000000
  | seconds => 1000000
  | milliseconds => 1000
  | microseconds => 1

/-- A span in microseconds. -/
abbrev Duration := Int

namespace Duration

/-- So many units. -/
def ofUnits (n : Int) (u : TimeUnit) : Duration := n * u.length

/-- The least of the exponents, but not more than zero. -/
def commonExponent (parts : List (TimeUnit × Decimal)) : Int :=
  parts.foldl (fun e p => min e p.2.exponent) 0

/-- The sum of parts, rounded to whole microseconds, a half to the even neighbour. -/
def ofParts (parts : List (TimeUnit × Decimal)) : Duration :=
  let e := commonExponent parts
  let sum : Int := parts.foldl (fun sum p =>
    sum + p.2.mantissa * (Nat.pow 10 (p.2.exponent - e).toNat : Nat) * p.1.length) 0
  sum.sign * Decimal.roundQuotient sum.natAbs (Nat.pow 10 (-e).toNat)

/-- The greatest number of days in a span. -/
def maxDays : Nat := 999999999

/-- Is the span, in full days to either side, short enough? -/
def isRepresentable (d : Duration) : Bool :=
  let days := Int.fdiv d TimeUnit.days.length
  days ≤ maxDays && -(maxDays : Int) ≤ days

end Duration

namespace Calendar

/-- The first second of the first year. -/
def first : Int := -62135596800

/-- The second after the last of the year 9999. -/
def limit : Int := 253402300800

/-- Is there a date for this moment, which is given in microseconds? -/
def hasDate (moment : Int) : Bool := first * 1000000 ≤ moment && moment < limit * 1000000

end Calendar

end Portrait
