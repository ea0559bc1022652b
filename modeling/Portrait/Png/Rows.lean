import Portrait.Png.Form

/-!
# Rows of a PNG

The data of a PNG is a sequence of rows, each behind a byte that names its filter. An interlaced
picture comes in seven passes over a grid of eight by eight pixels, and every pass with any pixels is
a smaller picture of its own.

* `Pass` — which pixels a pass holds; `passes` are those of a picture.
* `unfilter` — a row from its filtered bytes and the row above.
* `readPasses` — all rows of the passes.
* `locate` — the row that holds a pixel, and the column.
-/

namespace Portrait.Png

/-- The pixels whose column is `left` plus a multiple of `dx`, and likewise for rows. -/
structure Pass where
  left : Nat
  top : Nat
  dx : Nat
  dy : Nat
  deriving DecidableEq, Repr, Inhabited

/-- The single pass of a picture that is not interlaced. -/
def Pass.whole : Pass := ⟨0, 0, 1, 1⟩

/-- The passes of an interlaced picture. -/
def interlacedPasses : List Pass :=
  [⟨0, 0, 8, 8⟩, ⟨4, 0, 8, 8⟩, ⟨0, 4, 4, 8⟩, ⟨2, 0, 4, 4⟩, ⟨0, 2, 2, 4⟩, ⟨1, 0, 2, 2⟩, ⟨0, 1, 1, 2⟩]

def passes (interlaced : Bool) : List Pass := if interlaced then interlacedPasses else [.whole]

/-- Columns of a pass over a picture of this width. -/
def Pass.columns (p : Pass) (width : Nat) : Nat := (width + p.dx - 1 - p.left) / p.dx

/-- Rows of a pass over a picture of this size; a pass without columns has no rows either. -/
def Pass.rows (p : Pass) (width height : Nat) : Nat :=
  if p.columns width = 0 then 0 else (height + p.dy - 1 - p.top) / p.dy

/-- The pass that holds the pixel in column `x` of row `y`. -/
def passOf (interlaced : Bool) (x y : Nat) : Nat :=
  if !interlaced then 0
  else if y % 2 = 1 then 6
  else if x % 2 = 1 then 5
  else if y % 4 = 2 then 4
  else if x % 4 = 2 then 3
  else if y % 8 = 4 then 2
  else if x % 8 = 4 then 1
  else 0

/-- Whichever of left, above and upper left is nearest to left + above - upper left. -/
def paeth (left above corner : Nat) : Nat :=
  let p : Int := (left : Int) + above - corner
  let da := (p - left).natAbs
  let db := (p - above).natAbs
  let dc := (p - corner).natAbs
  if da ≤ db ∧ da ≤ dc then left else if db ≤ dc then above else corner

/-- What a filter predicts from the neighbours of a byte; there are five filters. -/
def predict? (filter left above corner : Nat) : Option Nat :=
  match filter with
  | 0 => some 0
  | 1 => some left
  | 2 => some above
  | 3 => some ((left + above) / 2)
  | 4 => some (paeth left above corner)
  | _ => none

/-- A row from its filtered bytes; `distance` leads to the pixel on the left. -/
def unfilter (filter distance : Nat) (above filtered : Array UInt8) : Option (Array UInt8) :=
  if 4 < filter then none
  else
    some (filtered.foldl (fun row b =>
      let i := row.size
      let before (a : Array UInt8) : Nat := if i < distance then 0 else (a.getD (i - distance) 0).toNat
      let guess := (predict? filter (before row) (above.getD i 0).toNat (before above)).getD 0
      row.push (UInt8.ofNat (b.toNat + guess))) (Array.mkEmpty filtered.size))

/-- The rows of a pass: `bytes` per row, `count` of them, or as many as the data holds. -/
def readRows (distance bytes : Nat) : Nat → Array UInt8 → Nat → Array UInt8 →
    Option (List (Array UInt8) × Nat)
  | 0, _, position, _ => some ([], position)
  | n + 1, data, position, above =>
    if data.size < position + 1 + bytes then some ([], data.size)
    else
      match unfilter (data.getD position 0).toNat distance above
          (data.extract (position + 1) (position + 1 + bytes)) with
      | none => none
      | some row =>
        match readRows distance bytes n data (position + 1 + bytes) row with
        | none => none
        | some (rows, position) => some (row :: rows, position)

/-- The rows of all passes, one array of rows for each pass; `none` for an unknown filter. -/
def readPasses (form : Form) (width height : Nat) : List Pass → Array UInt8 → Nat →
    Option (List (Array (Array UInt8)))
  | [], _, _ => some []
  | p :: ps, data, position =>
    match readRows form.filterDistance (form.rowBytes (p.columns width)) (p.rows width height) data
        position #[] with
    | none => none
    | some (rows, position) =>
      match readPasses form width height ps data position with
      | none => none
      | some rest => some (rows.toArray :: rest)

/-- The number of bytes that a pass takes, filter bytes included. -/
def Pass.byteSize (p : Pass) (form : Form) (width height : Nat) : Nat :=
  p.rows width height * (1 + form.rowBytes (p.columns width))

/-- The number of bytes that all rows take. -/
def dataSize (form : Form) (width height : Nat) (interlaced : Bool) : Nat :=
  (passes interlaced).foldl (fun size p => size + p.byteSize form width height) 0

/-- Does a row end after `n` bytes of the rows of one pass? -/
def Pass.endsRow (p : Pass) (form : Form) (width n : Nat) : Bool :=
  n % (1 + form.rowBytes (p.columns width)) = 0

/-- Does a row end after the first `n` bytes of the data? -/
def endsRow (form : Form) (width height : Nat) : List Pass → Nat → Bool
  | [], n => n = 0
  | p :: ps, n =>
    if n ≤ p.byteSize form width height then p.endsRow form width n
    else endsRow form width height ps (n - p.byteSize form width height)

/-- The row that holds a pixel, empty if it is missing, and the column of the pixel in it. -/
def locate (interlaced : Bool) (rows : Array (Array (Array UInt8))) (x y : Nat) :
    Array UInt8 × Nat :=
  let k := passOf interlaced x y
  let p := (passes interlaced).getD k .whole
  (((rows.getD k #[]).getD ((y - p.top) / p.dy) #[]), (x - p.left) / p.dx)

end Portrait.Png
