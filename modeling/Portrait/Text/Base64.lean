import Portrait.Bytes

/-!
# Base 64

Bytes as characters of six bits each. Two alphabets differ in their last two characters.

* `Base64.encode` — with padding, in the standard alphabet.
* `Base64.encodeUrl` — without padding, in the alphabet for addresses.
* `Base64.decode?` — reads the standard form; some texts are read that are never written.
* `Base64.decodeUrl?` — reads exactly what is written in the form for addresses.
-/

namespace Portrait.Base64

/-- The character that pads the last group. -/
def pad : UInt8 := 0x3D

/-- The code of the character for six bits; the last two are up to the alphabet. -/
def symbol (last : UInt8 × UInt8) (v : Nat) : UInt8 :=
  if v < 26 then UInt8.ofNat (0x41 + v)
  else if v < 52 then UInt8.ofNat (0x61 + (v - 26))
  else if v < 62 then UInt8.ofNat (0x30 + (v - 52))
  else if v = 62 then last.1 else last.2

/-- The last two characters of the standard alphabet. -/
def standard : UInt8 × UInt8 := (0x2B, 0x2F)

/-- The last two characters of the alphabet for addresses. -/
def url : UInt8 × UInt8 := (0x2D, 0x5F)

/-- The groups of characters for a byte string, the last of them with or without padding. -/
def groups (last : UInt8 × UInt8) (padding : Bytes) : Bytes → Bytes
  | [] => []
  | [a] =>
    [symbol last (a.toNat / 4), symbol last (a.toNat % 4 * 16)] ++ padding ++ padding
  | [a, b] =>
    [symbol last (a.toNat / 4), symbol last (a.toNat % 4 * 16 + b.toNat / 16),
      symbol last (b.toNat % 16 * 4)] ++ padding
  | a :: b :: c :: rest =>
    symbol last (a.toNat / 4) :: symbol last (a.toNat % 4 * 16 + b.toNat / 16) ::
      symbol last (b.toNat % 16 * 4 + c.toNat / 64) :: symbol last (c.toNat % 64) ::
      groups last padding rest

/-- The standard form. -/
def encode (bs : Bytes) : Bytes := groups standard [pad] bs

/-- The form for addresses, without padding. -/
def encodeUrl (bs : Bytes) : Bytes := groups url [] bs

/-- The six bits of a character. -/
def value? (last : UInt8 × UInt8) (c : UInt8) : Option Nat :=
  if 0x41 ≤ c ∧ c ≤ 0x5A then some (c.toNat - 0x41)
  else if 0x61 ≤ c ∧ c ≤ 0x7A then some (c.toNat - 0x61 + 26)
  else if 0x30 ≤ c ∧ c ≤ 0x39 then some (c.toNat - 0x30 + 52)
  else if c = last.1 then some 62
  else if c = last.2 then some 63
  else none

/-- What has been read: the number of characters of the group at hand, their bits that are not yet
in a byte, the padding in it, whether there has been any padding, and the bytes. -/
structure Reader where
  place : Nat := 0
  carry : Nat := 0
  pads : Nat := 0
  padded : Bool := false
  bytes : Array UInt8 := #[]

/-- Takes six more bits. -/
def Reader.push (r : Reader) (v : Nat) : Reader :=
  let add (n : Nat) : Array UInt8 := r.bytes.push (UInt8.ofNat n)
  match r.place with
  | 0 => { r with place := 1, carry := v, pads := 0 }
  | 1 => { r with place := 2, carry := v % 16, pads := 0, bytes := add (r.carry * 4 + v / 16) }
  | 2 => { r with place := 3, carry := v % 4, pads := 0, bytes := add (r.carry * 16 + v / 4) }
  | _ => { r with place := 0, carry := 0, pads := 0, bytes := add (r.carry * 64 + v) }

/-- Takes a padding character that does not end the text. -/
def Reader.skipPad (r : Reader) : Reader :=
  { r with padded := true, pads := if 2 ≤ r.place then r.pads + 1 else r.pads }

/-- Does one more padding character complete the group? -/
def Reader.endsWithPad (r : Reader) : Bool := 2 ≤ r.place && 4 ≤ r.place + r.pads + 1

/-- Reads a text. The padding that completes a group ends it, and nothing may follow; no other
character may be outside the alphabet or follow padding. -/
def Reader.run (last : UInt8 × UInt8) (r : Reader) : Bytes → Option Bytes
  | [] => if r.place = 0 then some r.bytes.toList else none
  | c :: rest =>
    if c = pad then
      if r.endsWithPad then if rest.isEmpty then some r.bytes.toList else none
      else r.skipPad.run last rest
    else
      match value? last c with
      | none => none
      | some v => if r.padded then none else (r.push v).run last rest

/-- Reads the standard form. Superfluous padding at the end of the text is overlooked, and so are
bits that do not make a byte. -/
def decode? (cs : Bytes) : Option Bytes :=
  if cs.head? = some pad then none else Reader.run standard {} cs

/-- Reads the form for addresses. Only what is written for a byte string is read as one: there is no
padding, and bits that do not make a byte are zero. -/
def decodeUrl? (cs : Bytes) : Option Bytes :=
  match Reader.run url {} (cs ++ List.replicate ((4 - cs.length % 4) % 4) pad) with
  | none => none
  | some bs => if encodeUrl bs = cs then some bs else none

end Portrait.Base64
