import Portrait.Checksum
import Portrait.Deflate.Block

/-!
# Compressed streams

A stream is two bytes of header, deflated blocks, and the Adler-32 checksum of the data. A reader
asks for a limited number of bytes, and the stream is followed until it would give one more: a stream
whose end follows the last byte asked for is followed to its end, checksum included.

* `inflate` — the data of a stream, and how reading it ended.
* `inflatePieces` — the same for a stream that arrives in pieces, of which only as many are looked at
  as the data needs.
-/

namespace Portrait.Deflate

/-- How the reading of a stream ended: there is more data than was asked for, the stream came to its
end, or it cannot be read on. -/
inductive Ending where
  | full
  | ended
  | stopped (why : Stop)
  deriving DecidableEq, Repr

/-- What the stream goes on with. -/
inductive Phase where
  | header
  | data (last : Bool) (block : Block)
  | checksum

/-- What follows a block. -/
def Phase.after (last : Bool) : Phase := if last then .checksum else .header

/-- The output with `length` more bytes, each a copy of the one `distance` before it. -/
def copy (distance : Nat) : Nat → Array UInt8 → Array UInt8
  | 0, out => out
  | n + 1, out =>
    let b := out.getD (out.size - distance) 0
    copy distance n (out.push b)

/-- A length that a symbol from 257 on stands for, and the distance that follows it. -/
def readMatch (codes : Codes) (s : Nat) (i : BitInput) : Except Stop (Nat × Nat × BitInput) := do
  let some (length, extra) := lengthRanges[s - 257]? | throw .corrupt
  let (more, i) ← take extra i
  let (d, i) ← symbol codes.distances i
  let some (distance, extra) := distanceRanges[d]? | throw .corrupt
  let (further, i) ← take extra i
  return (length + more, distance + further, i)

/-- Follows a stream until it would give more than `limit` bytes. Every step takes a bit or ends a
block, so `fuel` only has to exceed the number of both. -/
def run (limit : Nat) : Nat → Phase → BitInput → Array UInt8 → Ending × Array UInt8
  | 0, _, _, out => (.stopped .corrupt, out)
  | fuel + 1, .header, i, out =>
    match Block.readHeader i with
    | .error e => (.stopped e, out)
    | .ok (last, block, i) => run limit fuel (.data last block) i out
  | fuel + 1, .data last (.stored 0), i, out => run limit fuel (.after last) i out
  | fuel + 1, .data last (.stored (n + 1)), i, out =>
    if limit ≤ out.size then (.full, out)
    else
      match take 8 i with
      | .error e => (.stopped e, out)
      | .ok (b, i) => run limit fuel (.data last (.stored n)) i (out.push (UInt8.ofNat b))
  | fuel + 1, .data last (.coded codes), i, out =>
    match symbol codes.literals i with
    | .error e => (.stopped e, out)
    | .ok (s, i) =>
      if s < endOfBlock then
        if limit ≤ out.size then (.full, out)
        else run limit fuel (.data last (.coded codes)) i (out.push (UInt8.ofNat s))
      else if s = endOfBlock then run limit fuel (.after last) i out
      else
        match readMatch codes s i with
        | .error e => (.stopped e, out)
        | .ok (length, distance, i) =>
          if out.size < distance then (.stopped .corrupt, out)
          else if limit < out.size + length then (.full, copy distance (limit - out.size) out)
          else run limit fuel (.data last (.coded codes)) i (copy distance length out)
  | _ + 1, .checksum, i, out =>
    match i.aligned.take 32 with
    | none => (.stopped .starved, out)
    | some (n, _) =>
      if (Bytes.toLE 4 n).reverse = Bytes.toLE 4 (Checksum.adler32 out) then (.ended, out)
      else (.stopped .corrupt, out)

/-- Is this the header of a stream of deflated blocks without a preset dictionary? -/
def isHeader (cmf flg : UInt8) : Bool :=
  cmf.toNat % 16 = 8 && cmf.toNat / 16 ≤ 7 && (cmf.toNat * 256 + flg.toNat) % 31 = 0 &&
    flg.toNat / 32 % 2 = 0

/-- The first `limit` bytes of a stream, and how reading it ended. -/
def inflate (limit : Nat) (bs : Bytes) : Ending × Array UInt8 :=
  match bs with
  | cmf :: flg :: rest =>
    if isHeader cmf flg then
      run limit (16 * rest.length + 4) .header (.ofBytes rest) #[]
    else (.stopped .corrupt, #[])
  | _ => (.stopped .starved, #[])

/-- Follows a stream piece by piece, `seen` being the pieces so far, until all data is there. -/
def inflateFrom (limit : Nat) (seen : Bytes) : List Bytes → Ending × Array UInt8
  | [] => inflate limit seen
  | [piece] => inflate limit (seen ++ piece)
  | piece :: rest =>
    match inflate limit (seen ++ piece) with
    | (.stopped .starved, out) =>
      if out.size = limit then (.full, out) else inflateFrom limit (seen ++ piece) rest
    | r => r

/-- The first `limit` bytes of a stream in pieces. What is wrong with a piece does not matter when
the pieces before it hold all data. -/
def inflatePieces (limit : Nat) (pieces : List Bytes) : Ending × Array UInt8 :=
  match inflate limit pieces.flatten with
  | (.stopped .corrupt, _) => inflateFrom limit [] pieces
  | r => r

end Portrait.Deflate
