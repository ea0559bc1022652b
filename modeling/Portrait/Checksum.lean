import Portrait.Bytes

/-!
# Checksums

* `crc32` — the cyclic redundancy check of PNG chunks, with the reflected polynomial `0xEDB88320`.
* `adler32` — the checksum at the end of a compressed stream: two sums modulo 65521.
-/

namespace Portrait.Checksum

/-- One bit of the division by the polynomial. -/
def crcBit (c : UInt32) : UInt32 :=
  if c &&& 1 = 0 then c >>> 1 else (c >>> 1) ^^^ 0xEDB88320

/-- The remainder of one byte. -/
def crcByte (b : UInt32) : UInt32 :=
  crcBit (crcBit (crcBit (crcBit (crcBit (crcBit (crcBit (crcBit b)))))))

/-- The remainders of all bytes. -/
def crcTable : Array UInt32 := Array.ofFn fun i : Fin 256 => crcByte (UInt32.ofNat i.val)

/-- The state after one more byte. -/
def crcStep (c : UInt32) (b : UInt8) : UInt32 :=
  crcTable.getD ((c ^^^ b.toUInt32) &&& 0xFF).toNat 0 ^^^ (c >>> 8)

/-- The CRC-32 of a byte string. -/
def crc32 (bs : Bytes) : UInt32 := bs.foldl crcStep 0xFFFFFFFF ^^^ 0xFFFFFFFF

/-- The sums of Adler-32 after one more byte. -/
def adlerStep (s : Nat × Nat) (b : UInt8) : Nat × Nat :=
  let low := (s.1 + b.toNat) % 65521
  (low, (s.2 + low) % 65521)

/-- The Adler-32 checksum of a byte sequence. -/
def adler32 (bs : Array UInt8) : Nat :=
  let s := bs.foldl adlerStep (1, 0)
  s.2 * 65536 + s.1

end Portrait.Checksum
