import Portrait.Json.Basic
import Portrait.Text.Integer

/-!
# Reading the JavaScript object notation

* `Json.parse` — the value that a text stands for, or the place of its first error.
* `Json.ofBytes` — the same for an encoded text.

A number may also be `NaN`, `Infinity` or `-Infinity`. How deeply values may be nested is up to the
reader, who says so.
-/

namespace Portrait.Json

/-- What is wrong with a text. -/
inductive Fault where
  /-- The bytes cannot be decoded. -/
  | badText
  /-- The notation is violated at this code point. -/
  | badSyntax (place : Nat)
  /-- A whole number has too many digits. -/
  | longNumber
  /-- Values are nested too deeply. -/
  | tooDeep
  deriving DecidableEq, Repr

/-- A place in a text: the number of code points before it, and those after it. -/
structure Cursor where
  place : Nat
  rest : CodePoints

/-- The place `n` code points further on. -/
def Cursor.advance (c : Cursor) (n : Nat) : Cursor := ⟨c.place + n, c.rest.drop n⟩

/-- May the code point stand between tokens? -/
def isSpace (code : Nat) : Bool := code = 0x20 || code = 0x09 || code = 0x0A || code = 0x0D

/-- The place after blanks. -/
def skipSpaces (c : Cursor) : Cursor := c.advance (c.rest.takeWhile isSpace).length

/-- The unit in four hexadecimal digits. -/
def unit? (a b c d : Nat) : Option Nat :=
  match Text.hexValue? a, Text.hexValue? b, Text.hexValue? c, Text.hexValue? d with
  | some a, some b, some c, some d => some (((a * 16 + b) * 16 + c) * 16 + d)
  | _, _, _, _ => none

/-- The code point of an escape of one character. -/
def escape? (code : Nat) : Option Nat :=
  match code with
  | 0x22 => some 0x22
  | 0x5C => some 0x5C
  | 0x2F => some 0x2F
  | 0x62 => some 0x08
  | 0x66 => some 0x0C
  | 0x6E => some 0x0A
  | 0x72 => some 0x0D
  | 0x74 => some 0x09
  | _ => none

/-- Reads a text whose opening quote is at `start`, from `place` on, after the code points in `done`,
the last of which comes first. `high` is set if the last of them is the first half of a surrogate
pair that was written as an escape just before. An escape must not be the end of everything. -/
def readText (start : Nat) (place : Nat) (done : CodePoints) (high : Bool) :
    CodePoints → Except Fault (CodePoints × Cursor)
  | [] => .error (.badSyntax start)
  | 0x22 :: rest => .ok (done.reverse, ⟨place + 1, rest⟩)
  | 0x5C :: 0x75 :: a :: b :: c :: d :: e :: rest =>
    match unit? a b c d with
    | none => .error (.badSyntax (place + 1))
    | some u =>
      match high && CodePoints.isLowSurrogate u, done with
      | true, h :: done =>
        readText start (place + 6) (CodePoints.joinSurrogates h u :: done) false (e :: rest)
      | _, _ => readText start (place + 6) (u :: done) (CodePoints.isHighSurrogate u) (e :: rest)
  | 0x5C :: 0x75 :: _ => .error (.badSyntax (place + 1))
  | 0x5C :: c :: rest =>
    match escape? c with
    | none => .error (.badSyntax place)
    | some u => readText start (place + 2) (u :: done) false rest
  | 0x5C :: [] => .error (.badSyntax start)
  | c :: rest =>
    if c ≤ 0x1F then .error (.badSyntax place) else readText start (place + 1) (c :: done) false rest

/-- Is the code point an ASCII digit? -/
def isDigit (code : Nat) : Bool := 0x30 ≤ code && code ≤ 0x39

/-- The number in ASCII digits. -/
def natOf (digits : CodePoints) : Nat := Text.Integer.ofDigits (digits.map (· - 0x30))

/-- The digits of the whole part: a zero, or digits that do not begin with one. -/
def wholeDigits : CodePoints → CodePoints
  | 0x30 :: _ => [0x30]
  | cs => cs.takeWhile isDigit

/-- The digits of the fraction, none if no digit follows the point. -/
def fractionDigits : CodePoints → CodePoints
  | 0x2E :: rest => rest.takeWhile isDigit
  | _ => []

/-- The length of an exponent and its value; the length is zero if it has no digits. -/
def exponent (cs : CodePoints) : Nat × Int :=
  match cs with
  | e :: rest =>
    if e = 0x65 ∨ e = 0x45 then
      let (sign, rest) : Option Nat × CodePoints := match rest with
        | 0x2B :: rest => (some 0x2B, rest)
        | 0x2D :: rest => (some 0x2D, rest)
        | rest => (none, rest)
      let ds := rest.takeWhile isDigit
      if ds = [] then (0, 0)
      else ((if sign.isSome then 2 else 1) + ds.length,
        if sign = some 0x2D then -(natOf ds : Int) else natOf ds)
    else (0, 0)
  | [] => (0, 0)

/-- Reads a number. -/
def readNumber (c : Cursor) : Except Fault (Json × Cursor) :=
  let negative := c.rest.head? = some 0x2D
  let signed := if negative then c.rest.drop 1 else c.rest
  let whole := wholeDigits signed
  if whole = [] then .error (.badSyntax c.place)
  else
    let afterWhole := signed.drop whole.length
    let fraction := fractionDigits afterWhole
    let fractionLength := if fraction = [] then 0 else fraction.length + 1
    let (exponentLength, power) := exponent (afterWhole.drop fractionLength)
    let length := (if negative then 1 else 0) + whole.length + fractionLength + exponentLength
    let magnitude : Int := natOf (whole ++ fraction)
    let mantissa := if negative then -magnitude else magnitude
    if fractionLength = 0 ∧ exponentLength = 0 then
      if Text.Integer.maxDigits < whole.length then .error .longNumber
      else .ok (Json.whole mantissa, c.advance length)
    else .ok (decimal ⟨mantissa, power - fraction.length⟩, c.advance length)

/-- The values that are written as a word. -/
def words : List (CodePoints × Json) :=
  [(CodePoints.ofString "null", null), (CodePoints.ofString "true", bool true),
    (CodePoints.ofString "false", bool false), (CodePoints.ofString "NaN", nan),
    (CodePoints.ofString "Infinity", infinity false),
    (CodePoints.ofString "-Infinity", infinity true)]

/-- Reads a word or a number. -/
def readAtom (c : Cursor) : Except Fault (Json × Cursor) :=
  match words.find? fun w => w.1.isPrefixOf c.rest with
  | some (word, value) => .ok (value, c.advance word.length)
  | none => readNumber c

/-- Reads what follows an item of a sequence: the end of the sequence, or a comma and the next
item. `fuel` bounds the number of items. -/
def readMore {α : Type} (close : Nat) (item : Cursor → Except Fault (α × Cursor)) (done : List α)
    (c : Cursor) : Nat → Except Fault (List α × Cursor)
  | 0 => .error (.badSyntax c.place)
  | fuel + 1 =>
    let c := skipSpaces c
    match c.rest with
    | [] => .error (.badSyntax c.place)
    | x :: _ =>
      if x = close then .ok (done.reverse, c.advance 1)
      else if x ≠ 0x2C then .error (.badSyntax c.place)
      else
        match item (skipSpaces (c.advance 1)) with
        | .error e => .error e
        | .ok (a, c) => readMore close item (a :: done) c fuel

/-- Reads the items of a sequence whose opening bracket has been read. -/
def readSequence {α : Type} (close : Nat) (item : Cursor → Except Fault (α × Cursor)) (c : Cursor) :
    Except Fault (List α × Cursor) :=
  let c := skipSpaces c
  if c.rest.head? = some close then .ok ([], c.advance 1)
  else
    match item c with
    | .error e => .error e
    | .ok (a, c) => readMore close item [a] c (c.rest.length + 1)

/-- Reads a member of an object. -/
def readMember (value : Cursor → Except Fault (Json × Cursor)) (c : Cursor) :
    Except Fault ((CodePoints × Json) × Cursor) :=
  match c.rest with
  | 0x22 :: rest =>
    match readText c.place (c.place + 1) [] false rest with
    | .error e => .error e
    | .ok (name, c) =>
      let c := skipSpaces c
      if c.rest.head? = some 0x3A then
        match value (skipSpaces (c.advance 1)) with
        | .error e => .error e
        | .ok (j, c) => .ok ((name, j), c)
      else .error (.badSyntax c.place)
  | _ => .error (.badSyntax c.place)

/-- Reads a value in which arrays and objects are nested less than `depth` deep. -/
def readValue : Nat → Cursor → Except Fault (Json × Cursor)
  | 0, c =>
    match c.rest with
    | 0x22 :: rest => (readText c.place (c.place + 1) [] false rest).map fun (s, c) => (text s, c)
    | 0x5B :: _ => .error .tooDeep
    | 0x7B :: _ => .error .tooDeep
    | _ => readAtom c
  | depth + 1, c =>
    match c.rest with
    | 0x22 :: rest => (readText c.place (c.place + 1) [] false rest).map fun (s, c) => (text s, c)
    | 0x5B :: _ =>
      (readSequence 0x5D (readValue depth) (c.advance 1)).map fun (items, c) => (array items, c)
    | 0x7B :: _ =>
      (readSequence 0x7D (readMember (readValue depth)) (c.advance 1)).map fun (members, c) =>
        (object members, c)
    | _ => readAtom c

/-- The limit of nesting where nobody asks for another. -/
def usualDepth : Nat := 1000

/-- The value that a text stands for. Within the outermost array or object others may be nested up to
`depth` deep. -/
def parse (depth : Nat) (cs : CodePoints) : Except Fault Json :=
  match readValue (depth + 1) (skipSpaces ⟨0, cs⟩) with
  | .error e => .error e
  | .ok (j, c) =>
    let c := skipSpaces c
    if c.rest = [] then .ok j else .error (.badSyntax c.place)

/-- The value that an encoded text stands for. -/
def ofBytes (depth : Nat) (bs : Bytes) : Except Fault Json :=
  match CodePoints.ofBytes? bs with
  | none => .error .badText
  | some cs => parse depth cs

end Portrait.Json
