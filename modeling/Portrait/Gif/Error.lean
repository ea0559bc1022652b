import Portrait.Text.Integer

/-!
# What can go wrong with a GIF

`FormatError` lists the ways in which a byte string fails to be a GIF animation; `Failure` adds the
ways in which a well-formed animation cannot be processed: a frame with too many pixels, a number
that its field cannot hold, an argument that makes no sense.
-/

namespace Portrait.Gif

/-- Why a byte string is not a GIF animation. -/
inductive FormatError where
  | truncated
  | notGif
  | badGraphicControl
  | noColorTable
  | zeroSize
  | unknownIntroducer (b : UInt8)
  | noFrames
  | undecodableFrame
  deriving DecidableEq, Repr

/-- The two hexadecimal digits of a byte. -/
def hexByte (b : UInt8) : String :=
  String.ofList (Text.hexDigits b.toNat 2)

def FormatError.message : FormatError → String
  | .truncated => "unexpected end of GIF data"
  | .notGif => "not a GIF stream"
  | .badGraphicControl => "invalid graphic control extension"
  | .noColorTable => "frame has no color table"
  | .zeroSize => "frame has zero size"
  | .unknownIntroducer b => "unknown block introducer 0x" ++ hexByte b
  | .noFrames => "GIF has no frames"
  | .undecodableFrame => "frame decode failed"

/-- Why a GIF cannot be decoded, resized or written. -/
inductive Failure where
  | format (e : FormatError)
  | tooManyPixels
  | fieldOutOfRange
  | badArgument
  deriving DecidableEq, Repr

end Portrait.Gif
