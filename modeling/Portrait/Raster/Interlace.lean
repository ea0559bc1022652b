import Portrait.Raster.Basic

/-!
# Interlaced rows

GIF may store the rows of a picture in four passes: every eighth row, then the rows halfway between
those, and so on.

* `interlacedRows` — the rows of a picture in the order of the file.
* `interlacedSlot` — the place of a row in that order.
-/

namespace Portrait.Raster

variable {α : Type}

/-- Row numbers in the order in which an interlaced file holds them. -/
def interlacedRows (height : Nat) : List Nat :=
  let rows := List.range height
  rows.filter (fun y => y % 8 = 0) ++ rows.filter (fun y => y % 8 = 4) ++
    rows.filter (fun y => y % 4 = 2) ++ rows.filter (fun y => y % 2 = 1)

/-- The place of row `y` among the rows of an interlaced file. -/
def interlacedSlot (height y : Nat) : Nat :=
  if y % 8 = 0 then y / 8
  else if y % 8 = 4 then (height + 7) / 8 + y / 8
  else if y % 4 = 2 then (height + 7) / 8 + (height + 3) / 8 + y / 4
  else (height + 7) / 8 + (height + 3) / 8 + (height + 1) / 4 + y / 2

/-- The cells in file order: top to bottom, or in the four passes. -/
def serialize (r : Raster α) (interlaced : Bool) : Array α :=
  if interlaced then ((interlacedRows r.height).flatMap r.row).toArray else r.cells

/-- The raster whose cells in file order are `cells`; `d` stands for missing ones. -/
def deserialize (width height : Nat) (interlaced : Bool) (cells : Array α) (d : α) : Raster α :=
  ofFn width height fun x y =>
    cells.getD ((if interlaced then interlacedSlot height y else y) * width + x) d

end Portrait.Raster
