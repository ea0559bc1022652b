import Portrait.Settings.Basic
import Portrait.Text.Capital

/-!
# What is logged at all

Every logger has a threshold; lines below it are not written. Loggers that would write a line for every
call of a library have a threshold of their own, all others have that of the settings. The names of
loggers are paths with points: a threshold also holds for all loggers below.

* `Level` — the levels that lines are written at.
* `Setup.ofSettings` — the thresholds that the settings ask for.
* `Setup.admits` — is a line written?
-/

namespace Portrait.Log

/-- The levels that lines are written at. -/
inductive Level where
  | debug
  | info
  | warning
  | error
  | critical
  deriving DecidableEq, Repr

namespace Level

def name : Level → String
  | debug => "debug"
  | info => "info"
  | warning => "warning"
  | error => "error"
  | critical => "critical"

/-- The weight by which levels are compared. -/
def weight : Level → Nat
  | debug => 10
  | info => 20
  | warning => 30
  | error => 40
  | critical => 50

end Level

/-- Why logging cannot be set up. The level that is asked for may be the name of something that is no
level: of a text, or of a table. -/
inductive SetupError where
  | unknownLevel
  | namesText
  | namesTable
  deriving DecidableEq, Repr

/-- Levels by name. -/
def thresholds : List (String × Nat) :=
  [("CRITICAL", 50), ("FATAL", 50), ("ERROR", 40), ("WARNING", 30), ("WARN", 30), ("INFO", 20),
    ("DEBUG", 10), ("NOTSET", 0)]

/-- The threshold with a name, in letters of any case. -/
def thresholdOf (name : String) : Except SetupError Nat :=
  let name := name.map Text.upper
  match thresholds.lookup name with
  | some n => .ok n
  | none =>
    if name = "BASIC_FORMAT" then .error .namesText
    else if name = "_STYLES" then .error .namesTable
    else .error .unknownLevel

/-- Loggers that would write a line for every call. -/
def noisyLoggers : List String :=
  ["sqlalchemy", "sqlalchemy.engine", "PIL", "botocore", "aiobotocore", "boto3", "google.auth", "urllib3"]

/-- The logger of requests, which is noisy too unless people read the log. -/
def requestLogger : String := "uvicorn.access"

/-- How logging is set up. -/
structure Setup where
  threshold : Nat
  /-- Do people read the log? -/
  forPeople : Bool
  deriving DecidableEq, Repr

/-- Do people read the log of a service with these settings? -/
def isForPeople (s : Settings) : Bool := s.environment = "development"

/-- The setup that settings ask for. -/
def Setup.ofSettings (s : Settings) : Except SetupError Setup :=
  match thresholdOf s.logLevel with
  | .error e => .error e
  | .ok n => .ok ⟨n, isForPeople s⟩

/-- The loggers that are kept quiet. -/
def Setup.quietLoggers (s : Setup) : List String :=
  if s.forPeople then noisyLoggers else requestLogger :: noisyLoggers

/-- Is a logger the given one, or below it? -/
def isBelow (logger upper : String) : Bool :=
  logger = upper || (upper ++ ".").toList.isPrefixOf logger.toList

/-- The threshold of a logger. -/
def Setup.thresholdFor (s : Setup) (logger : String) : Nat :=
  if s.quietLoggers.any (isBelow logger ·) then Level.warning.weight else s.threshold

/-- Is a line of a logger written? -/
def Setup.admits (s : Setup) (logger : String) (level : Level) : Bool :=
  s.thresholdFor logger ≤ level.weight

end Portrait.Log
