import Portrait.Bytes

/-!
# Tagged directories

A TIFF file, and the EXIF block of other files, keep their data in directories: lists of numbered
tags with typed values, in either byte order.

* `Header` — the eight bytes in front, which give the byte order and where the directory is.
* `Directory.read` — the tags of a directory. It never fails: it ends where the data does, and skips
  a tag of unknown type or without a value.
* `Directory.value?` — the value of a tag; the last of several tags with one number counts.
-/

namespace Portrait.Tiff

inductive ByteOrder where
  | little
  | big
  deriving DecidableEq, Repr

/-- The number that bytes spell. -/
def ByteOrder.nat (o : ByteOrder) (bs : Bytes) : Nat :=
  match o with
  | .little => Bytes.ofLE bs
  | .big => Bytes.ofBE bs

/-- Where the first directory stands, and how its numbers are spelled. -/
structure Header where
  order : ByteOrder
  offset : Nat
  deriving DecidableEq, Repr

/-- The byte order that a file beginning with these four bytes is written in. The version number
behind the order mark may itself be in the wrong order. -/
def ByteOrder.ofMark? : Bytes → Option ByteOrder
  | [0x4D, 0x4D, 0x00, 0x2A] | [0x4D, 0x4D, 0x2A, 0x00] => some .big
  | [0x49, 0x49, 0x2A, 0x00] | [0x49, 0x49, 0x00, 0x2A] => some .little
  | _ => none

/-- The header of a file with 32-bit offsets. -/
def Header.read? (bs : Bytes) : Option Header :=
  match Bytes.takeExact 4 bs with
  | none => none
  | some (mark, rest) =>
    match ByteOrder.ofMark? mark, Bytes.takeExact 4 rest with
    | some order, some (offset, _) => some ⟨order, order.nat offset⟩
    | _, _ => none

/-- The types of values. -/
inductive Kind where
  | bytes
  | text
  | unsigned
  | signed
  | real
  deriving DecidableEq, Repr

/-- What a type number stands for, and how many bytes one value takes. -/
def Kind.ofNumber? : Nat → Option (Kind × Nat)
  | 1 => some (.bytes, 1)
  | 2 => some (.text, 1)
  | 3 => some (.unsigned, 2)
  | 4 => some (.unsigned, 4)
  | 5 => some (.real, 8)
  | 6 => some (.signed, 1)
  | 7 => some (.bytes, 1)
  | 8 => some (.signed, 2)
  | 9 => some (.signed, 4)
  | 10 => some (.real, 8)
  | 11 => some (.real, 4)
  | 12 => some (.real, 8)
  | 13 => some (.unsigned, 4)
  | 16 => some (.unsigned, 8)
  | _ => none

/-- The value of a tag: whole numbers, or anything else. -/
inductive Value where
  | numbers (ns : List Int)
  | bytes (bs : Bytes)
  | other
  deriving DecidableEq, Repr

/-- One tag. -/
structure Field where
  tag : Nat
  value : Value
  deriving DecidableEq, Repr

/-- The tags of a directory, in the order of the file. -/
structure Directory where
  fields : List Field := []
  deriving DecidableEq, Repr

/-- A number of `width` bytes in two's complement. -/
def signedNumber (width n : Nat) : Int :=
  if n < 1 <<< (8 * width - 1) then n else (n : Int) - (1 <<< (8 * width) : Nat)

/-- Bytes cut into groups of `width`, of which there are `count`. -/
def groups (width : Nat) : Nat → Bytes → List Bytes
  | 0, _ => []
  | n + 1, bs => bs.take width :: groups width n (bs.drop width)

/-- The value that the bytes of a tag spell. -/
def Value.ofBytes (o : ByteOrder) (kind : Kind) (width count : Nat) (bs : Bytes) : Value :=
  match kind with
  | .bytes => .bytes bs
  | .unsigned => .numbers ((groups width count bs).map fun g => Int.ofNat (o.nat g))
  | .signed => .numbers ((groups width count bs).map fun g => signedNumber width (o.nat g))
  | .text | .real => .other

/-- Up to four bytes of value stand in the tag itself, more of them elsewhere in the file. -/
def inlineBytes : Nat := 4

/-- Reads `n` tags at the front of `bs`; `file` is the whole data, which values point into. -/
def readFields (o : ByteOrder) (file : Bytes) : Nat → Bytes → List Field
  | 0, _ => []
  | n + 1, bs =>
    match Bytes.takeExact 12 bs with
    | none => []
    | some (entry, rest) =>
      let tag := o.nat (entry.take 2)
      let count := o.nat ((entry.drop 4).take 4)
      let slot := entry.drop 8
      match Kind.ofNumber? (o.nat ((entry.drop 2).take 2)) with
      | none => readFields o file n rest
      | some (kind, width) =>
        let size := width * count
        if size = 0 then readFields o file n rest
        else if size ≤ inlineBytes then
          ⟨tag, .ofBytes o kind width count (slot.take size)⟩ :: readFields o file n rest
        else
          match Bytes.slice? file (o.nat slot) size with
          | none => []
          | some value => ⟨tag, .ofBytes o kind width count value⟩ :: readFields o file n rest

/-- The directory at `offset`. -/
def Directory.read (o : ByteOrder) (file : Bytes) (offset : Nat) : Directory :=
  match Bytes.takeExact 2 (file.drop offset) with
  | none => {}
  | some (count, rest) => { fields := readFields o file (o.nat count) rest }

/-- The value of a tag. -/
def Directory.value? (d : Directory) (tag : Nat) : Option Value :=
  (d.fields.reverse.find? fun f => f.tag = tag).map (·.value)

/-- The numbers of a tag that has a value of whole numbers. -/
def Directory.numbers? (d : Directory) (tag : Nat) : Option (List Int) :=
  match d.value? tag with
  | some (.numbers ns) => some ns
  | _ => none

end Portrait.Tiff
