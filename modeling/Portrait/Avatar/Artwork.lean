import Portrait.Avatar.Failure
import Portrait.Avatar.Letter
import Portrait.Gif.Fit
import Portrait.Settings.Basic
import Portrait.Still.Encoded
import Portrait.Still.Prepare

/-!
# What is stored as an avatar

* `Artwork` — the content of a stored file.
* `Artwork.ofUpload` — what becomes of an upload that has passed the gate.
* `Artwork.ofName` — the tile for a name.
-/

namespace Portrait.Avatar

/-- The content of a stored file. -/
inductive Artwork where
  /-- Bytes: those of an animation, or of a file that was there before. -/
  | bytes (bs : Bytes)
  | picture (e : Encoded)
  /-- A drawn tile, which is always written as a PNG. -/
  | tile (t : Tile)

/-- The end of the name of the file. -/
def Artwork.extension : Artwork → String
  | bytes _ => "gif"
  | picture e => e.extension
  | tile _ => "png"

/-- An artwork, or the stage that failed and why. -/
abbrev Crafted := Except (Stage × Cause) Artwork

/-- The artwork for an animation. -/
def Artwork.ofAnimation (s : Settings) (data : Bytes) : Crafted :=
  match Gif.Animation.prepare data s.avatarSize with
  | .error e => .error (.prepare, .animation e)
  | .ok a =>
    match a.encode with
    | .error e => .error (.encode, .animation e)
    | .ok bs => .ok (.bytes bs)

/-- The artwork for an upright picture. -/
def Artwork.ofUpright (s : Settings) (r : Raster Rgba) : Crafted :=
  match fillSquare r s.avatarSize with
  | .error e => .error (.prepare, .picture e)
  | .ok square =>
    if square.width = 0 then .error (.encode, .emptyPicture)
    else .ok (.picture ((Picture.rgba square).encode s.avatarQuality))

/-- The artwork for an upload in a container, and why the orientation tag could not be read if it
could not. -/
def Artwork.ofUpload (s : Settings) (format : Format) (data : Bytes) : Crafted × Option StillError :=
  match format with
  | .gif => (ofAnimation s data, none)
  | format =>
    match upright data (some format) with
    | .error e => (.error (.prepare, .picture e), none)
    | .ok (r, .ok _) => (ofUpright s r, none)
    | .ok (r, .error e) => (ofUpright s r, some e)

/-- The artwork for a name, on a background of the next choice. -/
def Artwork.ofName (s : Settings) (fonts : Fonts) (draws : Draws) (name : String) : Crafted × Draws :=
  let (background, draws) := background defaultPalette "" draws
  match Tile.draw s.avatarSize (String.singleton (pickLetter name)) background defaultInk
      (s.letterFont.getD "") fonts with
  | .error e => (.error (.draw, .picture e), draws)
  | .ok t => (.ok (.tile t), draws)

end Portrait.Avatar
