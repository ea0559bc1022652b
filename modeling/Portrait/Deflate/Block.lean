import Portrait.Bits
import Portrait.Huffman

/-!
# Block headers of deflated data

Deflated data is a sequence of blocks: stored bytes, or symbols in one of two prefix codes, which
are fixed or described in the header of the block. A symbol below 256 is a byte, 256 ends the
block, and the rest are lengths of earlier output to be repeated, followed by a distance.

* `Block` — what the header of a block says about the data that follows.
* `Block.readHeader` — reads it.
-/

namespace Portrait.Deflate

/-- The next number of `width` bits. -/
def take (width : Nat) (i : BitInput) : Except Stop (Nat × BitInput) :=
  match i.take width with
  | none => .error .starved
  | some r => .ok r

/-- The next symbol of a code. -/
def symbol (c : CanonicalCode) (i : BitInput) : Except Stop (Nat × BitInput) :=
  c.decode (BitInput.take 1) i

/-- No code of a deflated block is longer than this. -/
def longestCode : Nat := 15

/-- The symbol that ends a block. -/
def endOfBlock : Nat := 256

/-- Least value and number of extra bits, for each length symbol from 257 on. -/
def lengthRanges : Array (Nat × Nat) :=
  #[(3, 0), (4, 0), (5, 0), (6, 0), (7, 0), (8, 0), (9, 0), (10, 0), (11, 1), (13, 1), (15, 1),
    (17, 1), (19, 2), (23, 2), (27, 2), (31, 2), (35, 3), (43, 3), (51, 3), (59, 3), (67, 4),
    (83, 4), (99, 4), (115, 4), (131, 5), (163, 5), (195, 5), (227, 5), (258, 0)]

/-- Least value and number of extra bits, for each distance symbol. -/
def distanceRanges : Array (Nat × Nat) :=
  #[(1, 0), (2, 0), (3, 0), (4, 0), (5, 1), (7, 1), (9, 2), (13, 2), (17, 3), (25, 3), (33, 4),
    (49, 4), (65, 5), (97, 5), (129, 6), (193, 6), (257, 7), (385, 7), (513, 8), (769, 8),
    (1025, 9), (1537, 9), (2049, 10), (3073, 10), (4097, 11), (6145, 11), (8193, 12), (12289, 12),
    (16385, 13), (24577, 13)]

/-- The order in which a header gives the lengths of the code for code lengths. -/
def lengthOrder : List Nat := [16, 17, 18, 0, 8, 7, 9, 6, 10, 5, 11, 4, 12, 3, 13, 2, 14, 1, 15]

/-- The prefix codes of a block. -/
structure Codes where
  literals : CanonicalCode
  distances : CanonicalCode
  deriving Inhabited

/-- The codes of a block that brings none of its own. -/
def Codes.fixed : Codes where
  literals := .ofLengths longestCode (List.replicate 144 8 ++ List.replicate 112 9 ++
    List.replicate 24 7 ++ List.replicate 8 8)
  distances := .ofLengths longestCode (List.replicate 32 5)

/-- How the data of a block is to be read. -/
inductive Block where
  | stored (length : Nat)
  | coded (codes : Codes)

/-- Has a code no unused room, or no more than a code that may be left unfinished? Such a code has
no symbols at all, or a single one of one bit if `single` allows it. -/
def isComplete (single : Bool) (c : CanonicalCode) : Bool :=
  match c.slack with
  | none => false
  | some room =>
    room = 0 ∨ c.symbols.isEmpty ∨ (single ∧ c.symbols.size = 1 ∧ c.counts.head? = some 1)

/-- Reads code lengths until there are `total`: symbol 16 repeats the last one, 17 and 18 are runs
of unused symbols. -/
def readLengths (code : CanonicalCode) (total : Nat) (lengths : Array Nat) (i : BitInput) :
    Except Stop (Array Nat × BitInput) :=
  if _hs : lengths.size < total then
    match symbol code i with
    | .error e => .error e
    | .ok (s, i) =>
      if s < 16 then readLengths code total (lengths.push s) i
      else
        let (value, least, width) : Option Nat × Nat × Nat :=
          if s = 16 then (lengths.back?, 3, 2) else if s = 17 then (some 0, 3, 3)
          else (some 0, 11, 7)
        match value with
        | none => .error .corrupt
        | some value =>
          match take width i with
          | .error e => .error e
          | .ok (more, i) =>
            if lengths.size + (least + more) ≤ total then
              if _hp : 0 < least + more then
                readLengths code total (lengths ++ Array.replicate (least + more) value) i
              else .error .corrupt
            else .error .corrupt
  else .ok (lengths, i)
termination_by total - lengths.size
decreasing_by
  · simp only [Array.size_push]; omega
  · simp only [Array.size_append, Array.size_replicate]; omega

/-- The `count` lengths of the code for code lengths, three bits each. -/
def readOrder : Nat → BitInput → Except Stop (List Nat × BitInput)
  | 0, i => .ok ([], i)
  | n + 1, i =>
    match take 3 i with
    | .error e => .error e
    | .ok (length, i) =>
      match readOrder n i with
      | .error e => .error e
      | .ok (lengths, i) => .ok (length :: lengths, i)

/-- Code lengths by symbol, from lengths in the order of `lengthOrder`. -/
def arrange (lengths : List Nat) : List Nat :=
  (List.range 19).map fun s => ((lengthOrder.zip lengths).lookup s).getD 0

/-- The two codes that a header describes. -/
def readCodes (i : BitInput) : Except Stop (Codes × BitInput) := do
  let (literals, i) ← take 5 i
  let (distances, i) ← take 5 i
  let (order, i) ← take 4 i
  let literals := literals + 257
  let distances := distances + 1
  if 286 < literals ∨ 30 < distances then throw .corrupt
  let (orderLengths, i) ← readOrder (order + 4) i
  let lengthCode := CanonicalCode.ofLengths 7 (arrange orderLengths)
  if !isComplete false lengthCode then throw .corrupt
  let (lengths, i) ← readLengths lengthCode (literals + distances) #[] i
  let literalLengths := (lengths.extract 0 literals).toList
  if literalLengths.getD endOfBlock 0 = 0 then throw .corrupt
  let codes : Codes := {
    literals := .ofLengths longestCode literalLengths
    distances := .ofLengths longestCode (lengths.extract literals lengths.size).toList }
  if !(isComplete true codes.literals && isComplete true codes.distances) then throw .corrupt
  return (codes, i)

/-- Reads the header of a block: is it the last one, and how is its data to be read? -/
def Block.readHeader (i : BitInput) : Except Stop (Bool × Block × BitInput) := do
  let (last, i) ← take 1 i
  let (kind, i) ← take 2 i
  let last := last = 1
  match kind with
  | 0 =>
    let (length, i) ← take 16 i.aligned
    let (check, i) ← take 16 i
    if length + check ≠ 65535 then throw .corrupt
    return (last, .stored length, i)
  | 1 => return (last, .coded .fixed, i)
  | 2 =>
    let (codes, i) ← readCodes i
    return (last, .coded codes, i)
  | _ => throw .corrupt

end Portrait.Deflate
