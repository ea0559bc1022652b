import Portrait.Bytes

/-!
# Bits of a byte string, lowest first

LZW codes in a GIF and the blocks of a compressed PNG are packed from the lowest bit of each byte
upwards. A reader keeps the bits of the byte at hand in a buffer, in front of the bytes that follow.

* `Bits.take` — a number of a given width from a buffer and the bytes behind it.
* `BitInput` — buffer and bytes as one value.

Main statement: what is taken leaves the input by exactly that many bits (`Bits.take_consumes`).
-/

namespace Portrait

namespace Bits

/-- A number of `width` bits from a buffer of `count` bits (`acc`, lowest bit first) followed by
bytes: the number, and what is left of buffer and bytes. -/
def take (width acc count : Nat) (bs : Bytes) : Option (Nat × Nat × Nat × Bytes) :=
  if width ≤ count then some (acc % 1 <<< width, acc >>> width, count - width, bs)
  else
    match bs with
    | [] => none
    | b :: rest => take width (acc + b.toNat <<< count) (count + 8) rest

theorem take_consumes {width acc count code acc' count' : Nat} {bs bs' : Bytes}
    (h : take width acc count bs = some (code, acc', count', bs')) :
    count' + 8 * bs'.length + width = count + 8 * bs.length := by
  induction bs generalizing acc count with
  | nil =>
    unfold take at h
    split at h
    · cases h; omega
    · cases h
  | cons b rest ih =>
    unfold take at h
    split at h
    · cases h; omega
    · have := ih h
      simp only [List.length_cons]
      omega

end Bits

/-- What is left of a byte string that is read bit by bit: `count` bits in `acc`, then bytes. -/
structure BitInput where
  acc : Nat
  count : Nat
  rest : Bytes

namespace BitInput

/-- A byte string of which nothing has been read. -/
def ofBytes (bs : Bytes) : BitInput := ⟨0, 0, bs⟩

/-- The next number of `width` bits. -/
def take (width : Nat) (i : BitInput) : Option (Nat × BitInput) :=
  match Bits.take width i.acc i.count i.rest with
  | none => none
  | some (n, acc, count, rest) => some (n, ⟨acc, count, rest⟩)

/-- The input from the next whole byte on. -/
def aligned (i : BitInput) : BitInput :=
  { i with acc := i.acc >>> (i.count % 8), count := i.count - i.count % 8 }

end BitInput

end Portrait
