import Portrait.Bytes
import Std.Data.HashMap

/-!
# Writing LZW codes

The greedy encoder for pixel data of eight bits: the longest string in the table is replaced by its
number, and that string with the byte after it becomes a new string. When all numbers are taken, a
clear code empties the table.

* `codes` — the codes of a pixel sequence, each with its width.
* `pack` — codes as bytes, least significant bit first.
* `encode` — both together.
-/

namespace Portrait.Gif.Lzw

/-- The minimum code size that the encoder writes. -/
def pixelBits : Nat := 8

def clearCode : Nat := 256
def endCode : Nat := 257

/-- The first number of the table's own strings. -/
def firstFree : Nat := 258

/-- The number of codes, and so the limit for string numbers. -/
def codeLimit : Nat := 4096

/-- The table of an encoder, and the codes emitted so far, the last one first. A string is known by
the code of all but its last byte, and that byte. -/
structure Encoder where
  strings : Std.HashMap (Nat × UInt8) Nat := ∅
  next : Nat := firstFree
  width : Nat := pixelBits + 1
  current : Option Nat := none
  emitted : List (Nat × Nat) := []

namespace Encoder

def emit (e : Encoder) (code : Nat) : Encoder :=
  { e with emitted := (code, e.width) :: e.emitted }

/-- Gives the next number to a string, or empties the table when there is none left. -/
def learn (e : Encoder) (code : Nat) (b : UInt8) : Encoder :=
  if e.next < codeLimit then
    { e with
      strings := e.strings.insert (code, b) e.next
      width := if e.next = 1 <<< e.width then e.width + 1 else e.width
      next := e.next + 1 }
  else
    { strings := ∅, current := e.current, emitted := (clearCode, e.width) :: e.emitted }

/-- Takes one more byte. -/
def push (e : Encoder) (b : UInt8) : Encoder :=
  match e.current with
  | none => { e with current := some b.toNat }
  | some code =>
    match e.strings[(code, b)]? with
    | some longer => { e with current := some longer }
    | none => { (e.emit code).learn code b with current := some b.toNat }

/-- Emits what is pending and the end code. -/
def finish (e : Encoder) : List (Nat × Nat) :=
  let e := match e.current with
    | none => e
    | some code => e.emit code
  let width := if e.next = 1 <<< e.width ∧ e.width < 12 then e.width + 1 else e.width
  ((endCode, width) :: e.emitted).reverse

end Encoder

/-- The codes of a pixel sequence with their widths, from the clear code to the end code. -/
def codes (pixels : Array UInt8) : List (Nat × Nat) :=
  let start : Encoder := ({} : Encoder).emit clearCode
  (pixels.foldl Encoder.push start).finish

/-- Moves whole bytes from a bit buffer to the output. -/
def flush (acc count : Nat) (out : Array UInt8) : Nat × Nat × Array UInt8 :=
  if 8 ≤ count then flush (acc / 256) (count - 8) (out.push (UInt8.ofNat acc)) else (acc, count, out)
termination_by count

/-- Codes as bytes: each code is put above the bits that wait in the buffer. -/
def pack (cs : List (Nat × Nat)) (acc count : Nat) (out : Array UInt8) : Array UInt8 :=
  match cs with
  | [] => if count = 0 then out else out.push (UInt8.ofNat acc)
  | (code, width) :: rest =>
    let (acc, count, out) := flush (acc + code <<< count) (count + width) out
    pack rest acc count out

/-- The LZW stream of a pixel sequence. -/
def encode (pixels : Array UInt8) : Bytes := (pack (codes pixels) 0 0 #[]).toList

end Portrait.Gif.Lzw
