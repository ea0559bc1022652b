import Portrait.Still.Picture

/-!
# The gate for uploads

Before anything else is done with an upload, its header is looked at: it must be a picture in a
supported container, and neither side may be too short or too long.

* `probe` — container and size of an upload that passes, or why it does not.
-/

namespace Portrait

/-- Why an upload is refused. -/
inductive Refusal where
  | undecodable
  | tooSmall
  | tooLarge
  deriving DecidableEq, Repr

def Refusal.message : Refusal → String
  | .undecodable => "avatar: image decode failed"
  | .tooSmall => "avatar: image too small"
  | .tooLarge => "avatar: image too large"

/-- What is known of an upload that passes. -/
structure Probe where
  format : Format
  width : Nat
  height : Nat
  deriving DecidableEq, Repr

/-- Looks at the header only. A picture of too many pixels is too large; of a side that is too short
and one that is too long, the short one counts. -/
def probe (bs : Bytes) (least greatest : Int) : Except Refusal Probe :=
  match Still.open bs with
  | .error .tooManyPixels => .error .tooLarge
  | .error _ => .error .undecodable
  | .ok s =>
    let (width, height) := s.size
    if (width : Int) < least ∨ (height : Int) < least then .error .tooSmall
    else if greatest < width ∨ greatest < height then .error .tooLarge
    else .ok ⟨s.format, width, height⟩

end Portrait
