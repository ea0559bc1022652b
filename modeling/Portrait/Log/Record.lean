import Portrait.Json.Basic
import Portrait.Log.Setup

/-!
# Lines of the log

A line says what happened and adds values by name. Values that belong to a request are kept in a
context and added to all lines that are written while it is handled.

* `Context.bind` — adds values to a context.
* `Record` — what a line holds.
* `Record.toJson` — the line for machines.
-/

namespace Portrait.Log

/-- Values by name; no name occurs twice. -/
abbrev Fields := List (String × Json)

/-- Adds values, which take over from those with the same name. -/
def Fields.update (old new : Fields) : Fields :=
  old.filter (fun f => !(new.any fun g => g.1 == f.1)) ++ new

/-- The values that are added to all lines. -/
structure Context where
  fields : Fields := []

namespace Context

/-- Adds values to a context. -/
def bind (c : Context) (fields : Fields) : Context := ⟨Fields.update c.fields fields⟩

/-- The context at the start of a request. -/
def ofRequest (id : String) : Context := ⟨[("request_id", .ofString id)]⟩

end Context

/-- What a line holds. -/
structure Record where
  level : Level
  logger : String
  event : String
  fields : Fields := []

/-- The name under which the logger without a name writes. -/
def rootLogger : String := "root"

/-- The name under which a logger writes. -/
def loggerName (logger : String) : String := if logger = "" then rootLogger else logger

/-- The names that every line has for itself. -/
def ownNames : List String := ["event", "level", "logger", "timestamp"]

/-- A line in a context. Its own values stand over those of the context, and what every line has for
itself stands over both. -/
def Record.inContext (r : Record) (c : Context) : Record :=
  { r with
    logger := loggerName r.logger
    fields := (Fields.update c.fields r.fields).filter fun f => !ownNames.contains f.1 }

/-- The line that is written for a record, if one is written. -/
def Setup.write (s : Setup) (c : Context) (r : Record) : Option Record :=
  if s.admits (loggerName r.logger) r.level then some (r.inContext c) else none

/-- The line for machines, written at some time. -/
def Record.toJson (r : Record) (time : String) : Json :=
  .ofMembers (r.fields ++ [("event", .ofString r.event), ("level", .ofString r.level.name),
    ("logger", .ofString r.logger), ("timestamp", .ofString time)])

end Portrait.Log
