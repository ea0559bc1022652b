import Portrait.Bytes

/-!
# The second family of secure hashes

A message is padded to whole blocks of sixteen words; each block stirs a state of eight words. The
members of the family differ in the word size, the rotations, the number of rounds and the state at
the start.

* `Variant` — a member of the family; `sha256`, `sha384` and `sha512`.
* `Variant.digest` — the hash of a message.
-/

namespace Portrait.Sha2

/-- The fractions of the cube roots of the first eighty primes, in units of `2 ^ -64`. -/
def cubeRoots : List Nat :=
  [0x428A2F98D728AE22, 0x7137449123EF65CD, 0xB5C0FBCFEC4D3B2F, 0xE9B5DBA58189DBBC,
    0x3956C25BF348B538, 0x59F111F1B605D019, 0x923F82A4AF194F9B, 0xAB1C5ED5DA6D8118,
    0xD807AA98A3030242, 0x12835B0145706FBE, 0x243185BE4EE4B28C, 0x550C7DC3D5FFB4E2,
    0x72BE5D74F27B896F, 0x80DEB1FE3B1696B1, 0x9BDC06A725C71235, 0xC19BF174CF692694,
    0xE49B69C19EF14AD2, 0xEFBE4786384F25E3, 0x0FC19DC68B8CD5B5, 0x240CA1CC77AC9C65,
    0x2DE92C6F592B0275, 0x4A7484AA6EA6E483, 0x5CB0A9DCBD41FBD4, 0x76F988DA831153B5,
    0x983E5152EE66DFAB, 0xA831C66D2DB43210, 0xB00327C898FB213F, 0xBF597FC7BEEF0EE4,
    0xC6E00BF33DA88FC2, 0xD5A79147930AA725, 0x06CA6351E003826F, 0x142929670A0E6E70,
    0x27B70A8546D22FFC, 0x2E1B21385C26C926, 0x4D2C6DFC5AC42AED, 0x53380D139D95B3DF,
    0x650A73548BAF63DE, 0x766A0ABB3C77B2A8, 0x81C2C92E47EDAEE6, 0x92722C851482353B,
    0xA2BFE8A14CF10364, 0xA81A664BBC423001, 0xC24B8B70D0F89791, 0xC76C51A30654BE30,
    0xD192E819D6EF5218, 0xD69906245565A910, 0xF40E35855771202A, 0x106AA07032BBD1B8,
    0x19A4C116B8D2D0C8, 0x1E376C085141AB53, 0x2748774CDF8EEB99, 0x34B0BCB5E19B48A8,
    0x391C0CB3C5C95A63, 0x4ED8AA4AE3418ACB, 0x5B9CCA4F7763E373, 0x682E6FF3D6B2B8A3,
    0x748F82EE5DEFB2FC, 0x78A5636F43172F60, 0x84C87814A1F0AB72, 0x8CC702081A6439EC,
    0x90BEFFFA23631E28, 0xA4506CEBDE82BDE9, 0xBEF9A3F7B2C67915, 0xC67178F2E372532B,
    0xCA273ECEEA26619C, 0xD186B8C721C0C207, 0xEADA7DD6CDE0EB1E, 0xF57D4F7FEE6ED178,
    0x06F067AA72176FBA, 0x0A637DC5A2C898A6, 0x113F9804BEF90DAE, 0x1B710B35131C471B,
    0x28DB77F523047D84, 0x32CAAB7B40C72493, 0x3C9EBE0A15C9BEBC, 0x431D67C49C100D4C,
    0x4CC5D4BECB3E42B6, 0x597F299CFC657E2A, 0x5FCB6FAB3AD6FAEC, 0x6C44198C4A475817]

/-- The fractions of the square roots of the first eight primes, in units of `2 ^ -64`. -/
def squareRoots : List Nat :=
  [0x6A09E667F3BCC908, 0xBB67AE8584CAA73B, 0x3C6EF372FE94F82B, 0xA54FF53A5F1D36F1,
    0x510E527FADE682D1, 0x9B05688C2B3E6C1F, 0x1F83D9ABFB41BD6B, 0x5BE0CD19137E2179]

/-- The fractions of the square roots of the next eight primes, in units of `2 ^ -64`. -/
def laterSquareRoots : List Nat :=
  [0xCBBB9D5DC1059ED8, 0x629A292A367CD507, 0x9159015A3070DD17, 0x152FECD8F70E5939,
    0x67332667FFC00B31, 0x8EB44A8768581511, 0xDB0C2E0D64F98FA7, 0x47B5481DBEFA4FA4]

/-- A mixture of three rotations of a word, the last of which may be a shift. -/
structure Mixture where
  first : Nat
  second : Nat
  third : Nat
  shifts : Bool := false

/-- The mixture of a word. -/
def Mixture.apply {w : Nat} (m : Mixture) (x : BitVec w) : BitVec w :=
  x.rotateRight m.first ^^^ x.rotateRight m.second ^^^
    (if m.shifts then x >>> m.third else x.rotateRight m.third)

/-- A member of the family. -/
structure Variant where
  /-- The bytes of a word. -/
  wordBytes : Nat
  /-- The number of rounds. -/
  rounds : Nat
  /-- The mixtures of the first and the fifth word of the state. -/
  head : Mixture
  middle : Mixture
  /-- The mixtures of the fifteenth and the second word before the next. -/
  early : Mixture
  late : Mixture
  /-- The state at the start, in units of `2 ^ -64`. -/
  start : List Nat
  /-- The length of a hash. -/
  digestBytes : Nat

namespace Variant

/-- The bits of a word. -/
def wordBits (v : Variant) : Nat := 8 * v.wordBytes

abbrev Word (v : Variant) : Type := BitVec v.wordBits

/-- The leading bits of a fraction as a word. -/
def fraction (v : Variant) (n : Nat) : v.Word := BitVec.ofNat _ (n >>> (64 - v.wordBits))

/-- The eight words of a state. -/
structure State (v : Variant) where
  a : v.Word
  b : v.Word
  c : v.Word
  d : v.Word
  e : v.Word
  f : v.Word
  g : v.Word
  h : v.Word

/-- The state at the start. -/
def initial (v : Variant) : v.State :=
  let word (i : Nat) : v.Word := v.fraction (v.start.getD i 0)
  ⟨word 0, word 1, word 2, word 3, word 4, word 5, word 6, word 7⟩

/-- One round, with its constant and word. -/
def round (v : Variant) (s : v.State) (k w : v.Word) : v.State :=
  let choice := (s.e &&& s.f) ^^^ (~~~s.e &&& s.g)
  let majority := (s.a &&& s.b) ^^^ (s.a &&& s.c) ^^^ (s.b &&& s.c)
  let t := s.h + v.middle.apply s.e + choice + k + w
  ⟨t + (v.head.apply s.a + majority), s.a, s.b, s.c, s.d + t, s.e, s.f, s.g⟩

/-- The word that follows the sixteen in the window. -/
def nextWord (v : Variant) (window : List v.Word) : v.Word :=
  v.late.apply (window.getD 14 0) + window.getD 9 0 + v.early.apply (window.getD 1 0) + window.getD 0 0

/-- The rounds for these constants; the next words are in the window. -/
def runRounds (v : Variant) (s : v.State) (window : List v.Word) : List v.Word → v.State
  | [] => s
  | k :: ks =>
    v.runRounds (v.round s k (window.getD 0 0)) (window.drop 1 ++ [v.nextWord window]) ks

/-- The constants of the rounds. -/
def constants (v : Variant) : List v.Word := (cubeRoots.take v.rounds).map v.fraction

/-- The words in a byte string. -/
def words (v : Variant) (count : Nat) (bs : Bytes) : List v.Word :=
  (List.range count).map fun i =>
    BitVec.ofNat _ (Bytes.ofBE ((bs.drop (i * v.wordBytes)).take v.wordBytes))

/-- The state after a block of sixteen words. -/
def stir (v : Variant) (s : v.State) (block : Bytes) : v.State :=
  let t := v.runRounds s (v.words 16 block) v.constants
  ⟨s.a + t.a, s.b + t.b, s.c + t.c, s.d + t.d, s.e + t.e, s.f + t.f, s.g + t.g, s.h + t.h⟩

/-- The bytes of a block. -/
def blockBytes (v : Variant) : Nat := 16 * v.wordBytes

/-- The message with a set bit, zeros and its length in bits, up to whole blocks. -/
def padded (v : Variant) (message : Bytes) : Bytes :=
  let used := message.length + 1 + 2 * v.wordBytes
  let zeros := (v.blockBytes - used % v.blockBytes) % v.blockBytes
  message ++ 0x80 :: List.replicate zeros 0 ++ Bytes.toBE (2 * v.wordBytes) (8 * message.length)

/-- The state after so many blocks. -/
def stirAll (v : Variant) (s : v.State) (bs : Bytes) : Nat → v.State
  | 0 => s
  | n + 1 => v.stirAll (v.stir s (bs.take v.blockBytes)) (bs.drop v.blockBytes) n

/-- The words of a state as bytes. -/
def State.toBytes {v : Variant} (s : v.State) : Bytes :=
  [s.a, s.b, s.c, s.d, s.e, s.f, s.g, s.h].flatMap fun w => Bytes.toBE v.wordBytes w.toNat

/-- The hash of a message. -/
def digest (v : Variant) (message : Bytes) : Bytes :=
  let bs := v.padded message
  (v.stirAll v.initial bs (bs.length / v.blockBytes)).toBytes.take v.digestBytes

end Variant

/-- The member with words of 32 bits. -/
def sha256 : Variant where
  wordBytes := 4
  rounds := 64
  head := ⟨2, 13, 22, false⟩
  middle := ⟨6, 11, 25, false⟩
  early := ⟨7, 18, 3, true⟩
  late := ⟨17, 19, 10, true⟩
  start := squareRoots
  digestBytes := 32

/-- The member with words of 64 bits. -/
def sha512 : Variant where
  wordBytes := 8
  rounds := 80
  head := ⟨28, 34, 39, false⟩
  middle := ⟨14, 18, 41, false⟩
  early := ⟨1, 8, 7, true⟩
  late := ⟨19, 61, 6, true⟩
  start := squareRoots
  digestBytes := 64

/-- The same with another start and a shorter hash. -/
def sha384 : Variant := { sha512 with start := laterSquareRoots, digestBytes := 48 }

/-- The code that authenticates a message with a secret key: the hash of the key in one disguise and
of the hash of the message after the key in another. -/
def Variant.authenticate (v : Variant) (key message : Bytes) : Bytes :=
  let key := if v.blockBytes < key.length then v.digest key else key
  let key := key ++ List.replicate (v.blockBytes - key.length) 0
  v.digest (key.map (· ^^^ 0x5C) ++ v.digest (key.map (· ^^^ 0x36) ++ message))

end Portrait.Sha2
