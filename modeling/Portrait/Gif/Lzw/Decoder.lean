import Portrait.Bits

/-!
# Reading LZW codes

Variable-width codes, least significant bit first, over a table of strings that grows as codes
arrive. A GIF image gives the minimum code size `m`: the codes below `1 <<< m` stand for themselves,
`1 <<< m` empties the table, the next one ends the stream, and the rest number the table's strings.

* `Decoder.step` — what one code appends to the output and adds to the table.
* `decode?` — exactly `need` output bytes; nothing if the stream ends, breaks or stops before.
-/

namespace Portrait.Gif.Lzw

/-- The greatest minimum code size, and the width beyond which codes do not grow. -/
def maxWidth : Nat := 12

/-- Strings get no numbers from here on. -/
def tableLimit : Nat := 1 <<< maxWidth

/-- A string of the table: its first byte, and all its bytes from the last to the first. -/
structure Entry where
  first : UInt8
  reversed : List UInt8
  deriving DecidableEq, Repr

/-- The string of a single byte. -/
def Entry.single (b : UInt8) : Entry := ⟨b, [b]⟩

/-- The string with one more byte at its end. -/
def Entry.extend (e : Entry) (b : UInt8) : Entry := ⟨e.first, b :: e.reversed⟩

/-- The table and output of a decoder. `grown` is how far the code width exceeds its start. -/
structure Decoder where
  table : Array Entry := #[]
  grown : Nat := 0
  previous : Option Entry := none
  output : Array UInt8 := #[]

namespace Decoder

/-- The width of the next code for minimum code size `m`. -/
def width (d : Decoder) (m : Nat) : Nat := d.grown + (m + 1)

/-- The number that the next new string gets. -/
def next (d : Decoder) (m : Nat) : Nat := 1 <<< m + 2 + d.table.size

/-- The string of a code already in the table. -/
def entry? (d : Decoder) (m code : Nat) : Option Entry :=
  if code < 1 <<< m then some (.single (UInt8.ofNat code))
  else if code < 1 <<< m + 2 then none
  else d.table[code - (1 <<< m + 2)]?

/-- Adds a string to the table, if there is room, and widens the codes when the numbers need it. -/
def add (d : Decoder) (m : Nat) (e : Entry) : Decoder :=
  if d.next m < tableLimit then
    { d with
      table := d.table.push e
      grown :=
        if d.next m + 1 = 1 <<< d.width m ∧ d.width m < maxWidth then d.grown + 1 else d.grown }
  else d

/-- Appends the bytes of a string to the output. -/
def emit (d : Decoder) (e : Entry) : Decoder :=
  { d with
    output := e.reversed.foldr (fun b out => out.push b) d.output
    previous := some e }

/-- What a code that is neither clear nor end does. -/
def step (d : Decoder) (m code : Nat) : Option Decoder :=
  match d.previous with
  | none => if code < 1 <<< m then some (d.emit (.single (UInt8.ofNat code))) else none
  | some p =>
    match d.entry? m code with
    | some e => some ((d.add m (p.extend e.first)).emit e)
    | none =>
      if code = d.next m ∧ code < tableLimit then
        some ((d.add m (p.extend p.first)).emit (p.extend p.first))
      else none

/-- The state after a clear code. -/
def clear (d : Decoder) : Decoder := { output := d.output }

end Decoder

/-- Runs the decoder until it has `need` bytes of output. -/
def run (m need : Nat) (d : Decoder) (acc count : Nat) (bs : Bytes) : Option (Array UInt8) :=
  match _ht : Bits.take (d.width m) acc count bs with
  | none => none
  | some (code, acc', count', bs') =>
    if code = 1 <<< m then run m need d.clear acc' count' bs'
    else if code = 1 <<< m + 1 then none
    else
      match d.step m code with
      | none => none
      | some d' =>
        if need ≤ d'.output.size then some (d'.output.extract 0 need)
        else run m need d' acc' count' bs'
termination_by count + 8 * bs.length
decreasing_by
  all_goals
    have := Bits.take_consumes _ht
    have : 0 < d.width m := by unfold Decoder.width; omega
    omega

/-- The first `need` bytes that the codes in `bs` stand for. -/
def decode? (m need : Nat) (bs : Bytes) : Option (Array UInt8) :=
  if m ≤ maxWidth then run m need {} 0 0 bs else none

end Portrait.Gif.Lzw
