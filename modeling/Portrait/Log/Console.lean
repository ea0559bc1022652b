import Portrait.Log.Record
import Portrait.Log.Shown

/-!
# Lines for people

The lines that people read are coloured and have columns: the time, the level, what happened, and the
logger; the values follow in the order of their names.

* `Record.toConsole` — the line for people.
-/

namespace Portrait.Log

/-- The start of a style, which holds up to the next reset. -/
def style (number : Nat) : String := "\x1b[" ++ toString number ++ "m"

def reset : String := style 0

def bright : String := style 1

def dim : String := style 2

def red : String := style 31

def green : String := style 32

def yellow : String := style 33

def blue : String := style 34

def magenta : String := style 35

def cyan : String := style 36

/-- A text in a style. -/
def styled (start text : String) : String := start ++ text ++ reset

/-- A text with blanks after it. -/
def padded (width : Nat) (s : String) : String := s ++ String.ofList (List.replicate (width - s.length) ' ')

/-- The colour of a level. -/
def Level.color : Level → String
  | .debug => green
  | .info => green
  | .warning => yellow
  | .error => red
  | .critical => red

/-- The widths of the columns for levels and for events. -/
def levelWidth : Nat := 9

def eventWidth : Nat := 30

def levelColumn (l : Level) : String := "[" ++ styled (l.color ++ bright) (padded levelWidth l.name) ++ "]"

def eventColumn (event : String) : String := styled bright (padded eventWidth event)

def loggerColumn (logger : String) : String :=
  "[" ++ reset ++ styled (bright ++ blue) logger ++ "]" ++ reset

/-- A value with its name. -/
def fieldColumn (f : String × Json) : String := styled cyan f.1 ++ "=" ++ styled magenta (shownBare f.2)

/-- The line for people, written at some time. -/
def Record.toConsole (r : Record) (time : String) : String :=
  " ".intercalate ([styled dim time, levelColumn r.level, eventColumn r.event, loggerColumn r.logger] ++
    (r.fields.mergeSort fun f g => decide (f.1 ≤ g.1)).map fieldColumn)

end Portrait.Log
