import Portrait.Raster.Basic

/-!
# Filling a square

A picture fills a `size` by `size` square when it is scaled until it covers the square and what
sticks out is cut off evenly at both ends of the longer side. The part that stays, the centred
square of the source, is described axis by axis.

* `Axis.centred` — the part of one side that stays.
* `Axis.nearest` — the source coordinate under the middle of each target coordinate.
* `sampleMap` — the source position of each target position, `none` beyond the source.
* `fillNearest` — the square filled by taking those pixels as they are.
-/

namespace Portrait.Raster

variable {α : Type}

/-- The part of a side of `source` pixels that fills a target side: `extent` pixels from the
coordinate `twiceStart / 2` on. -/
structure Axis where
  source : Nat
  twiceStart : Nat
  extent : Nat
  deriving DecidableEq, Repr

/-- The middle of a side, as long as the shorter of both sides. -/
def Axis.centred (side other : Nat) : Axis :=
  if other < side then ⟨side, side - other, other⟩ else ⟨side, 0, side⟩

/-- Does the side go over into the target as it is? -/
def Axis.isWhole (a : Axis) (size : Nat) : Bool :=
  a.source == size && a.extent == size && a.twiceStart == 0

/-- Source pixels per target pixel. -/
def Axis.scale (a : Axis) (size : Nat) : Float := Float.ofNat a.extent / Float.ofNat size

/-- Where the part that stays begins. -/
def Axis.start (a : Axis) : Float := Float.ofNat a.twiceStart / 2

/-- So many coordinates, from `position` on in steps of `step`, each cut to a whole number. -/
def walk (step : Float) : Nat → Float → List Nat
  | 0, _ => []
  | n + 1, position => position.toUInt64.toNat :: walk step n (position + step)

/-- The source coordinate under the middle of each of `size` target coordinates. -/
def Axis.nearest (a : Axis) (size : Nat) : Array Nat :=
  (walk (a.scale size) size (a.start + a.scale size * 0.5)).toArray

/-- The source position that each position of the filled square shows, for a source of `width` by
`height` pixels. -/
def sampleMap (width height size : Nat) : Raster (Option (Nat × Nat)) :=
  let xs := (Axis.centred width height).nearest size
  let ys := (Axis.centred height width).nearest size
  ofFn size size fun x y =>
    match xs[x]?, ys[y]? with
    | some sx, some sy => if sx < width ∧ sy < height then some (sx, sy) else none
    | _, _ => none

/-- A square filled with the nearest source pixels; `blank` where there is none. -/
def fillNearest (r : Raster α) (size : Nat) (blank : α) : Raster α :=
  if r.width = size ∧ r.height = size then r
  else
    (sampleMap r.width r.height size).map fun
      | some (x, y) => r.getD x y blank
      | none => blank

/-- A sampled position lies inside the source. -/
theorem sampleMap_inside {w h size x y sx sy : Nat}
    (hs : (sampleMap w h size).get? x y = some (some (sx, sy))) : sx < w ∧ sy < h := by
  by_cases hxy : x < size ∧ y < size
  · unfold sampleMap at hs
    rw [get?_ofFn hxy.1 hxy.2] at hs
    simp only [Option.some.injEq] at hs
    split at hs
    · split at hs
      · rename_i hin
        simp only [Option.some.injEq, Prod.mk.injEq] at hs
        obtain ⟨rfl, rfl⟩ := hs
        exact hin
      · cases hs
    · cases hs
  · rw [get?_eq_none (by simpa [sampleMap, ofFn] using hxy)] at hs
    cases hs

end Portrait.Raster
