import Portrait.Jpeg.Header
import Portrait.Raster.Pixel

/-!
# Scans of a JPEG

A scan is a sequence of blocks of eight by eight samples in prefix codes, highest bit first; a zero
byte is stuffed behind every data byte `0xFF`, so that a marker can be told from data. Of every
block only its mean is decoded.

* `BitReader` — the bits of a scan. A marker is followed by zeros without end; where the data ends
  without a marker, bits cannot be had.
* `readGroups` — the means of the blocks of a baseline scan, component by component.
-/

namespace Portrait.Jpeg

/-- The bits of a scan: `count` bits in `acc`, then bytes. `exhausted` is set once zeros had to be
made up. -/
structure BitReader where
  acc : Nat := 0
  count : Nat := 0
  rest : Bytes
  exhausted : Bool := false

/-- A reader fills its buffer up to this many bits, so that far must there be data or a marker. -/
def fillBits : Nat := 57

/-- Codes are looked up by this many bits at once. -/
def lookaheadBits : Nat := 8

/-- Moves bytes into the buffer until it is full or a marker comes; `none` if the data ends before
either. -/
def fill (acc count : Nat) (bs : Bytes) : Option (Nat × Nat × Bytes) :=
  if fillBits ≤ count then some (acc, count, bs)
  else
    match bs with
    | [] => none
    | b :: rest =>
      if b ≠ 0xFF then fill (acc * 256 + b.toNat) (count + 8) rest
      else
        match rest with
        | [] => none
        | m :: tail =>
          if m = 0xFF then fill acc count (m :: tail)
          else if m = 0 then fill (acc * 256 + 255) (count + 8) tail
          else some (acc, count, bs)
termination_by bs.length
decreasing_by
  all_goals simp only [List.length_cons]; omega

/-- A reader with at least `need` bits in its buffer; `wanted` says when to look for more. -/
def BitReader.ensure (r : BitReader) (need wanted : Nat) : Option BitReader :=
  if wanted ≤ r.count then some r
  else
    match fill r.acc r.count r.rest with
    | none => none
    | some (acc, count, rest) =>
      if need ≤ count then some { r with acc := acc, count := count, rest := rest }
      else
        some {
          acc := acc <<< (fillBits - count)
          count := fillBits
          rest := rest
          exhausted := true }

/-- The next number of `width` bits. -/
def BitReader.take (r : BitReader) (width : Nat) : Option (Nat × BitReader) :=
  match r.ensure width width with
  | none => none
  | some r =>
    some (r.acc >>> (r.count - width) % 1 <<< width,
      { r with acc := r.acc % 1 <<< (r.count - width), count := r.count - width })

/-- The next symbol of a code; bits that are no code count as symbol 0. -/
def BitReader.symbol (r : BitReader) (c : CanonicalCode) : Option (Nat × BitReader) :=
  match r.ensure 0 lookaheadBits with
  | none => none
  | some r =>
    match c.decode (fun r => BitReader.take r 1) r with
    | .ok s => some s
    | .error .starved => none
    | .error .corrupt => some (0, r)

/-- A number of `width` bits: those with a highest bit of zero are negative. -/
def extend (width n : Nat) : Int := if 2 * n < 1 <<< width then (n : Int) - (1 <<< width : Nat) + 1 else n

/-- Skips the coefficients of a block but for the first, `position` being the next one. -/
def skipCoefficients (c : CanonicalCode) : Nat → Nat → BitReader → Option BitReader
  | 0, _, r => some r
  | fuel + 1, position, r =>
    if 63 < position then some r
    else
      match r.symbol c with
      | none => none
      | some (s, r) =>
        let run := s / 16
        let width := s % 16
        if width = 0 then
          if run = 15 then skipCoefficients c fuel (position + 16) r else some r
        else
          match r.take width with
          | none => none
          | some (_, r) => skipCoefficients c fuel (position + run + 1) r

/-- What is needed to decode the blocks of one component. -/
structure Channel where
  across : Nat
  down : Nat
  mean : CanonicalCode
  detail : CanonicalCode
  step : Nat

/-- Decodes a block: the difference of its first coefficient from that of the block before. -/
def readBlock (ch : Channel) (r : BitReader) : Option (Int × BitReader) :=
  match r.symbol ch.mean with
  | none => none
  | some (width, r) =>
    match r.take width with
    | none => none
    | some (n, r) => (skipCoefficients ch.detail 64 1 r).map fun r => (extend width n, r)

/-- The sample that a block of a single coefficient consists of. -/
def meanSample (step : Nat) (coefficient : Int) : UInt8 :=
  let v := (coefficient * step + 4) / 8 + 128
  if v < 0 then 0 else if 255 < v then 255 else UInt8.ofNat v.toNat

/-- Decodes `count` blocks of a component, each first coefficient being given by its difference from
the one before, onto `samples`. -/
def readBlocks (ch : Channel) : Nat → Int → Array UInt8 → BitReader →
    Option (Int × Array UInt8 × BitReader)
  | 0, last, samples, r => some (last, samples, r)
  | n + 1, last, samples, r =>
    match readBlock ch r with
    | none => none
    | some (d, r) => readBlocks ch n (last + d) (samples.push (meanSample ch.step (last + d))) r

/-- A component while it is decoded: its last first coefficient, and the samples so far. -/
structure Progress where
  channel : Channel
  last : Int := 0
  samples : Array UInt8 := #[]

/-- Decodes one group of blocks: those of every component that belong to one stretch of picture. -/
def readGroup : List Progress → BitReader → Option (List Progress × BitReader)
  | [], r => some ([], r)
  | p :: ps, r =>
    match readBlocks p.channel (p.channel.across * p.channel.down) p.last p.samples r with
    | none => none
    | some (last, samples, r) =>
      match readGroup ps r with
      | none => none
      | some (ps, r) => some ({ p with last := last, samples := samples } :: ps, r)

/-- A group of blocks for which there is no data. -/
def blankGroup (ps : List Progress) : List Progress :=
  ps.map fun p =>
    { p with samples :=
        p.samples ++ Array.replicate (p.channel.across * p.channel.down) (meanSample p.channel.step 0) }

/-- The bytes from the name of the next marker on. -/
def nextMarker : Bytes → Option Bytes
  | 0xFF :: m :: rest =>
    if m = 0xFF then nextMarker (m :: rest)
    else if m = 0 then nextMarker rest
    else some (m :: rest)
  | _ :: rest => nextMarker rest
  | [] => none

/-- The reader behind a restart marker; it stays in front of any other marker. -/
def BitReader.resume (r : BitReader) : Option BitReader :=
  match nextMarker r.rest with
  | none | some [] => none
  | some (m :: rest) =>
    if 0xD0 ≤ m ∧ m ≤ 0xD7 then some { rest := rest }
    else some { rest := 0xFF :: m :: rest, exhausted := r.exhausted }

/-- Decodes `n` groups of blocks; `interval` groups, if that is not 0, lie between restart markers,
and `due` groups are left until the next one. -/
def readGroups (interval : Nat) : Nat → Nat → List Progress → BitReader → Option (List Progress)
  | 0, _, ps, _ => some ps
  | n + 1, due, ps, r =>
    let restarts := interval ≠ 0 ∧ due = 0
    match if restarts then r.resume else some r with
    | none => none
    | some r =>
      let ps := if restarts then ps.map fun p => { p with last := 0 } else ps
      let due := if restarts then interval else due
      if r.exhausted then readGroups interval n (due - 1) (blankGroup ps) r
      else
        match readGroup ps r with
        | none => none
        | some (ps, r) => readGroups interval n (due - 1) ps r

end Portrait.Jpeg
