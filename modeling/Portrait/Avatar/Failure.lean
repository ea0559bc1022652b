import Portrait.Gif.Error
import Portrait.Raster.Pixel
import Portrait.Still.Probe
import Portrait.Storage.Local
import Portrait.Text.CodePoints

/-!
# What can go wrong with an avatar

A new avatar goes through stages. What fails before the first of them is told as it is; what fails in
a stage is told with the stage.

* `Stage` — the stages.
* `Cause` — why a stage fails.
* `SaveError` — why there is no new avatar.
-/

namespace Portrait.Avatar

/-- The stages that a new avatar goes through. -/
inductive Stage where
  | prepare
  | draw
  | encode
  | store
  | updateRecord
  deriving DecidableEq, Repr

def Stage.name : Stage → String
  | prepare => "prepare"
  | draw => "draw"
  | encode => "encode"
  | store => "store"
  | updateRecord => "update_record"

/-- Why something fails. -/
inductive Cause where
  | animation (e : Gif.Failure)
  | picture (e : StillError)
  /-- A picture without pixels cannot be written. -/
  | emptyPicture
  | noMember (id : Int)
  /-- The table of members cannot hold such a number. -/
  | idOutOfRange
  | storage (e : Storage.StorageError)
  /-- Something outside fails. -/
  | outage (kind words : String)
  deriving DecidableEq, Repr

/-- A cause in words, none if they are not ours. -/
def Cause.words : Cause → String
  | animation (.format e) => e.message
  | noMember id => "user " ++ toString id ++ " not found"
  | storage (.escapes path) => Storage.escapeMessage path
  | outage _ words => words
  | _ => ""

/-- Why there is no new avatar. -/
inductive SaveError where
  /-- The upload does not pass the gate. -/
  | refused (r : Refusal)
  /-- The member cannot be looked up. -/
  | notFound (cause : Cause)
  | failed (stage : Stage) (cause : Cause)
  deriving DecidableEq, Repr

def SaveError.message : SaveError → String
  | refused r => r.message
  | notFound cause => cause.words
  | failed stage cause => Text.strip ("avatar: " ++ stage.name ++ " failed: " ++ cause.words)

end Portrait.Avatar
