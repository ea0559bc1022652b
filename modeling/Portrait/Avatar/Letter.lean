import Portrait.Raster.Pixel
import Portrait.Text.Capital

/-!
# Letter avatars

A member without a picture gets a tile: the capital initial of the name on a coloured square. How the
letter is drawn is left to the font; of a tile are known its size, its background, and the colour of
the letter where it covers the background.

* `pickLetter` — the letter for a name.
* `paletteIndex` — a position in a palette that depends on a key alone.
* `Tile.draw` — the tile for a letter.
-/

namespace Portrait.Avatar

/-- The first character of a name as a capital, or a blank. -/
def pickLetter (name : String) : Char :=
  match name.toList with
  | [] => ' '
  | c :: _ => Text.upper c

/-- The sum of a key's code points, reduced to a position in a palette of that size. The position has
the sign of the size, and there is none in an empty palette. -/
def paletteIndex (key : String) (size : Int) : Option Int :=
  if size = 0 then none else some (Int.fmod (key.toList.foldl (fun n c => n + c.toNat) 0) size)

/-- The colours of backgrounds. -/
def defaultPalette : List Rgb :=
  [⟨0x45, 0xBD, 0xF3⟩, ⟨0xE0, 0x8F, 0x70⟩, ⟨0x4D, 0xB6, 0xAC⟩, ⟨0x95, 0x75, 0xCD⟩,
    ⟨0xB0, 0x85, 0x75⟩, ⟨0x77, 0x77, 0x77⟩, ⟨0x34, 0x9A, 0xEE⟩, ⟨0xFF, 0xA2, 0x4B⟩,
    ⟨0x84, 0xAA, 0x49⟩, ⟨0xE5, 0x73, 0x73⟩, ⟨0x5C, 0x6B, 0xC0⟩, ⟨0xF0, 0x62, 0x92⟩,
    ⟨0x26, 0xA6, 0x9A⟩, ⟨0xAB, 0x47, 0xBC⟩]

/-- The translucent colour of letters. -/
def defaultInk : Rgba := ⟨0xF0, 0xF0, 0xF0, 0xF0⟩

/-- The background when there are no colours to choose from. -/
def fallbackBackground : Rgb := ⟨0, 0, 0⟩

/-- A source of choices: numbers that are used one after the other, from the start again when they
run out. -/
structure Draws where
  script : List Int := []
  used : Nat := 0
  deriving DecidableEq, Repr

/-- The number of the next choice. -/
def Draws.number (d : Draws) : Int := d.script.getD (d.used % d.script.length) 0

/-- A position among `n`, and the source after it. -/
def Draws.next (d : Draws) (n : Nat) : Nat × Draws :=
  ((Int.fmod d.number n).toNat, { d with used := d.used + 1 })

/-- How the background of a tile is chosen: by a key if there is a non-empty one, else by the next
choice. -/
def background (palette : List Rgb) (key : String) (draws : Draws) : Rgb × Draws :=
  if palette = [] then (fallbackBackground, draws)
  else if key ≠ "" then
    (palette.getD ((paletteIndex key palette.length).getD 0).toNat fallbackBackground, draws)
  else
    let (i, draws) := draws.next palette.length
    (palette.getD i fallbackBackground, draws)

/-- One channel of a translucent colour over an opaque one. -/
def blendChannel (source destination : UInt8) (weight : Nat) : UInt8 :=
  let t := source.toNat * weight + destination.toNat * (255 * 128 - weight) + 128 * 128
  UInt8.ofNat ((t + t / 256) / 256 / 128)

/-- A translucent colour over an opaque one. -/
def blend (ink : Rgba) (background : Rgb) : Rgb :=
  let weight := ink.a.toNat * 255 * 255 * 128 / (ink.a.toNat * 255 + 255 * (255 - ink.a.toNat))
  ⟨blendChannel ink.r background.r weight, blendChannel ink.g background.g weight,
    blendChannel ink.b background.b weight⟩

/-- A drawn tile, opaque everywhere. `ink` is the colour of the letter, if it shows at all. -/
structure Tile where
  size : Nat
  background : Rgb
  ink : Option Rgb
  deriving DecidableEq, Repr

/-- The size of letters relative to the tile, in tenths. -/
def letterScale : Nat := 6

/-- A font, as far as it shows a letter at all. -/
abbrev Font := String → Bool

/-- The font that is there if no other is asked for shows everything but the blank. -/
def Font.builtIn : Font := fun letter => letter ≠ "" && letter ≠ " "

/-- The fonts in files; none for a file that holds no font. -/
abbrev Fonts := String → Option Font

/-- Draws a tile, with the font in a file if there is a name. Fonts cannot be had in a size below
one. -/
def Tile.draw (size : Int) (letter : String) (background : Rgb) (ink : Rgba) (file : String)
    (fonts : Fonts := fun _ => none) : Except StillError Tile :=
  if size * letterScale < 10 then .error .badValue
  else
    match if file = "" then some Font.builtIn else fonts file with
    | none => .error .broken
    | some font =>
      let shown := blend ink background
      .ok ⟨size.toNat, background, if font letter ∧ shown ≠ background then some shown else none⟩

end Portrait.Avatar
