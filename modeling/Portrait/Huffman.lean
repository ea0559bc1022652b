/-!
# Canonical prefix codes

A canonical code is known from the number of its codes of each length and the order of its symbols:
codes of one length are consecutive numbers, and the first code of the next length is the successor
of the last one with a zero behind it. Codes are read from their highest bit on.

* `CanonicalCode.ofLengths` — the code that gives every symbol a code of a given length.
* `CanonicalCode.slack` — what the code leaves unused, nothing if there are too many codes.
* `CanonicalCode.decode` — the next symbol from any source of bits.
-/

namespace Portrait

/-- Why compressed data cannot be read on: there is no more of it, or it is not well formed. -/
inductive Stop where
  | starved
  | corrupt
  deriving DecidableEq, Repr

/-- A prefix code: `counts` are the numbers of codes of one bit, two bits and so on. -/
structure CanonicalCode where
  counts : List Nat
  symbols : Array Nat
  deriving Repr, Inhabited

namespace CanonicalCode

/-- The positions in `lengths` that hold `length`. -/
def symbolsOf (lengths : List Nat) (length : Nat) : List Nat :=
  (lengths.zipIdx.filter fun p => p.1 = length).map (·.2)

/-- The code in which symbol `s` has `lengths[s]` bits, none if that is 0; `longest` bounds the
lengths. -/
def ofLengths (longest : Nat) (lengths : List Nat) : CanonicalCode where
  counts := (List.range longest).map fun k => lengths.count (k + 1)
  symbols := ((List.range longest).flatMap fun k => symbolsOf lengths (k + 1)).toArray

/-- What is left of `room` codes of some length when `counts` are taken from the lengths that
follow; nothing if there is not enough room. -/
def slackFrom : List Nat → Nat → Option Nat
  | [], room => some room
  | c :: cs, room => if 2 * room < c then none else slackFrom cs (2 * room - c)

/-- The number of longest codes that stay unused. -/
def slack (c : CanonicalCode) : Option Nat := slackFrom c.counts 1

variable {σ : Type}

/-- Follows the bits of a code: `code` has been read so far, `first` is the lowest code of this
length and stands for the symbol at `index`. -/
def walk (next : σ → Option (Nat × σ)) (symbols : Array Nat) :
    List Nat → Nat → Nat → Nat → σ → Except Stop (Nat × σ)
  | [], _, _, _, _ => .error .corrupt
  | c :: cs, code, first, index, s =>
    match next s with
    | none => .error .starved
    | some (b, s') =>
      if 2 * code + b < first + c then
        match symbols[index + (2 * code + b - first)]? with
        | none => .error .corrupt
        | some symbol => .ok (symbol, s')
      else walk next symbols cs (2 * code + b) (2 * (first + c)) (index + c) s'

/-- The next symbol. -/
def decode (next : σ → Option (Nat × σ)) (c : CanonicalCode) (s : σ) : Except Stop (Nat × σ) :=
  walk next c.symbols c.counts 0 0 0 s

end CanonicalCode

end Portrait
