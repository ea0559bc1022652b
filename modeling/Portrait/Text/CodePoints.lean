import Portrait.Bytes

/-!
# Texts as code points

Text that comes from outside may hold halves of surrogate pairs, which a `String` cannot. It is kept
as a list of code points until it is known to be sound.

* `CodePoints.ofString`, `CodePoints.toString?` — to and from strings.
* `CodePoints.ofUtf8?`, `CodePoints.ofUtf16?`, `CodePoints.ofUtf32?` — decoding bytes; halves of
  surrogate pairs are let through.
* `CodePoints.ofBytes?` — decoding bytes in an encoding that is recognised by the first of them.
* `Text.isBlank`, `Text.strip` — the white space of the Unicode character database, and the removal of
  it from both ends of a text.
-/

namespace Portrait

/-- A text as its code points. -/
abbrev CodePoints := List Nat

namespace CodePoints

def ofString (s : String) : CodePoints := s.toList.map Char.toNat

/-- The string, if no code point is half of a surrogate pair. -/
def toString? (cs : CodePoints) : Option String :=
  if cs.all fun c => decide c.isValidChar then some (String.ofList (cs.map Char.ofNat)) else none

/-- Is the byte one that continues a code point? -/
def isTail (b : UInt8) : Bool := 0x80 ≤ b && b ≤ 0xBF

/-- The code point in a lead byte and its tails, by the number of tails. -/
def compose (lead : UInt8) (marker : Nat) (tails : List UInt8) : Nat :=
  tails.foldl (fun n b => n * 64 + (b.toNat - 0x80)) (lead.toNat - marker)

/-- Is this two-byte form well-formed? -/
def isPair (a b : UInt8) : Bool := 0xC2 ≤ a && a ≤ 0xDF && isTail b

/-- Is this three-byte form well-formed? Surrogates are let through. -/
def isTriple (a b c : UInt8) : Bool :=
  0xE0 ≤ a && a ≤ 0xEF && isTail b && isTail c && (a != 0xE0 || 0xA0 ≤ b)

/-- Is this four-byte form well-formed? -/
def isQuadruple (a b c d : UInt8) : Bool :=
  0xF0 ≤ a && a ≤ 0xF4 && isTail b && isTail c && isTail d && (a != 0xF0 || 0x90 ≤ b) &&
    (a != 0xF4 || b ≤ 0x8F)

/-- Decodes UTF-8 after the code points in `done`, the last of which comes first. -/
def utf8From (done : CodePoints) : Bytes → Option CodePoints
  | [] => some done.reverse
  | a :: rest =>
    if a < 0x80 then utf8From (a.toNat :: done) rest
    else
      match rest with
      | [] => none
      | b :: rest =>
        if isPair a b then utf8From (compose a 0xC0 [b] :: done) rest
        else
          match rest with
          | [] => none
          | c :: rest =>
            if isTriple a b c then utf8From (compose a 0xE0 [b, c] :: done) rest
            else
              match rest with
              | [] => none
              | d :: rest =>
                if isQuadruple a b c d then utf8From (compose a 0xF0 [b, c, d] :: done) rest
                else none

def ofUtf8? (bs : Bytes) : Option CodePoints := utf8From [] bs

/-- The order of the bytes of a unit. -/
inductive Order where
  | little
  | big
  deriving DecidableEq, Repr

/-- The number in the bytes of a unit. -/
def Order.read (order : Order) (bs : Bytes) : Nat :=
  match order with
  | .little => Bytes.ofLE bs
  | .big => Bytes.ofBE bs

/-- The units of two bytes; none if a byte is left over. -/
def units (order : Order) (done : List Nat) : Bytes → Option (List Nat)
  | [] => some done.reverse
  | [_] => none
  | a :: b :: rest => units order (order.read [a, b] :: done) rest

/-- Is the unit the first half of a surrogate pair? -/
def isHighSurrogate (u : Nat) : Bool := 0xD800 ≤ u && u ≤ 0xDBFF

/-- Is the unit the second half of a surrogate pair? -/
def isLowSurrogate (u : Nat) : Bool := 0xDC00 ≤ u && u ≤ 0xDFFF

/-- The code point of a surrogate pair. -/
def joinSurrogates (high low : Nat) : Nat := 0x10000 + (high - 0xD800) * 0x400 + (low - 0xDC00)

/-- Joins surrogate pairs. -/
def joinPairs (done : CodePoints) : List Nat → CodePoints
  | [] => done.reverse
  | [u] => (u :: done).reverse
  | u :: v :: rest =>
    if isHighSurrogate u && isLowSurrogate v then joinPairs (joinSurrogates u v :: done) rest
    else joinPairs (u :: done) (v :: rest)

def ofUtf16? (order : Order) (bs : Bytes) : Option CodePoints := (units order [] bs).map (joinPairs [])

/-- Decodes UTF-32 after the code points in `done`, the last of which comes first. -/
def utf32From (order : Order) (done : CodePoints) : Bytes → Option CodePoints
  | [] => some done.reverse
  | a :: b :: c :: d :: rest =>
    let code := order.read [a, b, c, d]
    if code ≤ 0x10FFFF then utf32From order (code :: done) rest else none
  | _ => none

def ofUtf32? (order : Order) (bs : Bytes) : Option CodePoints := utf32From order [] bs

/-- Decodes a text that says by its first bytes how it is encoded: by a byte order mark, which is
dropped, or else by the zeros in a first character that is assumed to be ASCII. -/
def ofBytes? (bs : Bytes) : Option CodePoints :=
  match bs with
  | 0x00 :: 0x00 :: 0xFE :: 0xFF :: rest => ofUtf32? .big rest
  | 0xFF :: 0xFE :: 0x00 :: 0x00 :: rest => ofUtf32? .little rest
  | 0xFE :: 0xFF :: rest => ofUtf16? .big rest
  | 0xFF :: 0xFE :: rest => ofUtf16? .little rest
  | 0xEF :: 0xBB :: 0xBF :: rest => ofUtf8? rest
  | a :: b :: c :: d :: _ =>
    if a = 0 then (if b = 0 then ofUtf32? .big bs else ofUtf16? .big bs)
    else if b = 0 then (if c = 0 ∧ d = 0 then ofUtf32? .little bs else ofUtf16? .little bs)
    else ofUtf8? bs
  | [a, b] =>
    if a = 0 then ofUtf16? .big bs else if b = 0 then ofUtf16? .little bs else ofUtf8? bs
  | _ => ofUtf8? bs

end CodePoints

/-! ## Blanks -/

namespace Text

/-- The first and last code points of the ranges of blanks. -/
def blankRanges : List (Nat × Nat) :=
  [(0x09, 0x0D), (0x1C, 0x20), (0x85, 0x85), (0xA0, 0xA0), (0x1680, 0x1680), (0x2000, 0x200A),
    (0x2028, 0x2029), (0x202F, 0x202F), (0x205F, 0x205F), (0x3000, 0x3000)]

/-- Is the code point a blank? -/
def isBlank (code : Nat) : Bool := blankRanges.any fun r => r.1 ≤ code && code ≤ r.2

/-- The list without what satisfies `p` at its ends. -/
def trim {α : Type} (p : α → Bool) (l : List α) : List α :=
  ((l.dropWhile p).reverse.dropWhile p).reverse

/-- The text without blanks at its ends. -/
def strip (s : String) : String := String.ofList (trim (fun c => isBlank c.toNat) s.toList)

end Text

end Portrait
