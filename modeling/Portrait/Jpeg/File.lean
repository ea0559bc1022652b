import Portrait.Jpeg.Scan

/-!
# Pixels of a JPEG

* `File.load` — the picture in colours, every block of eight by eight samples having its mean.

A picture whose components come in several scans, or that is not coded in the baseline process, is
only checked for its end marker; its blocks are taken to be gray.
-/

namespace Portrait.Jpeg

/-- The greatest sampling factors of a frame. -/
def Frame.maxAcross (f : Frame) : Nat := (f.components.map (·.across)).foldl max 1

def Frame.maxDown (f : Frame) : Nat := (f.components.map (·.down)).foldl max 1

/-- How often `step` must be taken to cover `n`. -/
def cover (n step : Nat) : Nat := (n + step - 1) / step

/-- One component of a decoded picture: `columns` groups of `across` by `down` blocks in a row, one
sample for each block. -/
structure Plane where
  across : Nat
  down : Nat
  columns : Nat
  samples : Array UInt8
  deriving DecidableEq

/-- The sample of the pixel in column `x` of row `y`; the picture has `wide` by `high` blocks in a
group. -/
def Plane.sample (p : Plane) (wide high x y : Nat) : UInt8 :=
  let bx := x * p.across / wide / 8
  let by' := y * p.down / high / 8
  let group := by' / p.down * p.columns + bx / p.across
  p.samples.getD (group * (p.across * p.down) + by' % p.down * p.across + bx % p.across) 128

/-- What the header of a scan says of one component: the slots of its two codes. -/
structure Selector where
  component : Nat
  mean : Nat
  detail : Nat

/-- The components of a scan. -/
def readSelectors (bs : Bytes) : Option (List Selector) :=
  match bs with
  | [] => none
  | n :: rest => go n.toNat rest
where
  /-- Reads `n` selectors. -/
  go : Nat → Bytes → Option (List Selector)
    | 0, _ => some []
    | n + 1, c :: slots :: rest =>
      (go n rest).map (⟨c.toNat, slots.toNat / 16, 16 + slots.toNat % 16⟩ :: ·)
    | _, _ => none

/-- The channel that a selector and its component describe; codes and tables must be there. -/
def Header.channel (h : Header) (c : Component) (s : Selector) : Option Channel :=
  match h.codes.lookup s.mean, h.codes.lookup s.detail, h.quantization.lookup c.table with
  | some mean, some detail, some (step :: _) =>
    if 1 ≤ c.across ∧ c.across ≤ 4 ∧ 1 ≤ c.down ∧ c.down ≤ 4 then
      some ⟨c.across, c.down, mean, detail, step⟩
    else none
  | _, _, _ => none

/-- The channels of a scan that holds all components. -/
def Header.channels (h : Header) (f : Frame) (selectors : List Selector) : Option (List Channel) :=
  f.components.mapM fun c =>
    match selectors.find? fun s => s.component = c.id with
    | none => none
    | some s => h.channel c s

/-- Is there an end marker? -/
def hasEnd : Bytes → Bool
  | 0xFF :: 0xD9 :: _ => true
  | _ :: rest => hasEnd rest
  | [] => false

/-- A lone component is not grouped. -/
def ungroup : List Channel → List Channel
  | [c] => [{ c with across := 1, down := 1 }]
  | cs => cs

/-- The planes of a picture. -/
def File.planes (f : File) : Except StillError (List Plane) :=
  match readSelectors f.scan with
  | none => .error .broken
  | some selectors =>
    if (f.frame.marker = 0xC0 ∨ f.frame.marker = 0xC1) ∧
        selectors.length = f.frame.components.length then
      match f.header.channels f.frame selectors with
      | none => .error .broken
      | some channels =>
        let channels := ungroup channels
        let lone := channels.length = 1
        let wide := if lone then 8 else 8 * f.frame.maxAcross
        let high := if lone then 8 else 8 * f.frame.maxDown
        let columns := cover f.frame.width wide
        let groups := columns * cover f.frame.height high
        match readGroups f.header.restart groups f.header.restart
            (channels.map fun c => { channel := c }) { rest := f.coded } with
        | none => .error .broken
        | some done =>
          .ok (done.map fun p => ⟨p.channel.across, p.channel.down, columns, p.samples⟩)
    else if hasEnd f.coded then
      .ok (f.frame.components.map fun _ => ⟨1, 1, 1, #[]⟩)
    else .error .broken

/-- A whole number cut to the range of a byte. -/
def toByte (n : Int) : UInt8 := if n < 0 then 0 else if 255 < n then 255 else UInt8.ofNat n.toNat

/-- A colour from luminance and two differences, with factors of sixteen fractional bits. -/
def ofLuminance (y cb cr : UInt8) : Rgb :=
  let b : Int := (cb.toNat : Int) - 128
  let r : Int := (cr.toNat : Int) - 128
  let y : Int := y.toNat
  ⟨toByte (y + (91881 * r + 32768) / 65536),
    toByte (y + (-22554 * b - 46802 * r + 32768) / 65536),
    toByte (y + (116130 * b + 32768) / 65536)⟩

/-- A colour from the inks that are left out. -/
def ofInks (c m y k : UInt8) : Rgb :=
  let ink (v : UInt8) : UInt8 :=
    let t := (255 - v.toNat) * k.toNat + 128
    toByte ((k.toNat : Int) - ((t / 256 + t) / 256 : Nat))
  ⟨ink c, ink m, ink y⟩

/-- Are the three components of the picture luminance and differences, rather than primary colours? -/
def File.hasLuminance (f : File) : Bool :=
  if f.header.isJfif then true
  else
    match f.header.transform with
    | some t => t ≠ 0
    | none => f.frame.components.map (·.id) ≠ [0x52, 0x47, 0x42]

/-- The colour of a pixel from its samples. -/
def File.color (f : File) (samples : List UInt8) : Rgb :=
  match samples with
  | [l] => ⟨l, l, l⟩
  | [y, cb, cr] => if f.hasLuminance then ofLuminance y cb cr else ⟨y, cb, cr⟩
  | [c, m, y, k] =>
    if f.header.transform = some 2 then
      let p := ofLuminance c m y
      ofInks (255 - p.r) (255 - p.g) (255 - p.b) k
    else ofInks c m y k
  | _ => ⟨0, 0, 0⟩

/-- The picture in colours. -/
def File.load (f : File) : Except StillError (Raster Rgba) :=
  match f.planes with
  | .error e => .error e
  | .ok planes =>
    let wide := if planes.length = 1 then 1 else f.frame.maxAcross
    let high := if planes.length = 1 then 1 else f.frame.maxDown
    .ok (Raster.ofFn f.frame.width f.frame.height fun x y =>
      (f.color (planes.map fun p => p.sample wide high x y)).opaqueColor)

end Portrait.Jpeg
