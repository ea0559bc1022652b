import Portrait.Avatar.Failure
import Portrait.Log.Setup

/-!
# What is logged about avatars

* `Event` — what happens to avatars.
* `Event.name`, `Event.level` — how it is logged.
-/

namespace Portrait.Avatar

/-- What happens to avatars. -/
inductive Event where
  | orientationUnreadable (e : StillError)
  | saved (file : String)
  | oldRemoved (file : String)
  | removeFailed (file : String) (cause : Cause)
  | uploaded (member : Int) (file : String) (format : Format)
  | generated (member : Int) (file : String)
  | saveFailed (member : Int) (stage : Stage) (cause : Cause)
  | generateFailed (member : Int) (stage : Stage)
  deriving DecidableEq, Repr

namespace Event

def name : Event → String
  | orientationUnreadable _ => "exif_orientation_unreadable"
  | saved _ => "avatar_saved"
  | oldRemoved _ => "old_avatar_deleted"
  | removeFailed _ _ => "avatar_remove_failed"
  | uploaded _ _ _ => "avatar_uploaded"
  | generated _ _ => "avatar_generated"
  | saveFailed _ _ _ => "avatar_save_failed"
  | generateFailed _ _ => "avatar_generate_failed"

def level : Event → Log.Level
  | orientationUnreadable _ => .debug
  | saved _ => .info
  | oldRemoved _ => .info
  | removeFailed _ _ => .warning
  | uploaded _ _ _ => .info
  | generated _ _ => .info
  | saveFailed _ _ _ => .error
  | generateFailed _ _ => .error

end Event

end Portrait.Avatar
