import Portrait.Log.Record

/-!
# The life of the service

* `lifespan` — what is logged when the service starts and when it stops.
-/

namespace Portrait.Log

/-- The part of the address of the database that may be logged: what follows the first at sign, up to
the next. -/
def loggedDatabase (address : String) : String :=
  match address.splitOn "@" with
  | _ :: place :: _ => place
  | _ => "configured"

/-- The logger of the service itself. -/
def serviceLogger : String := "board.main"

/-- The line at the start. -/
def starting (s : Settings) : Record where
  level := .info
  logger := serviceLogger
  event := "api_starting"
  fields := [("environment", .ofString s.environment),
    ("database", .ofString (loggedDatabase s.databaseUrl)), ("storage", .ofString s.storageType)]

/-- The line at the end. -/
def stopping : Record where
  level := .info
  logger := serviceLogger
  event := "api_shutting_down"

/-- The lines that are written while a service starts and stops. -/
def lifespan (s : Settings) : Except SetupError (List Record) :=
  match Setup.ofSettings s with
  | .error e => .error e
  | .ok setup => .ok ([starting s, stopping].filterMap (setup.write {}))

end Portrait.Log
