import VendorLaunch.Logged
import VendorLaunch.Text.Case

/-!
# Levels of the log

A level is a number; six of them have names, and two of the names have another spelling. A level
is set by its name in any case. What is no name means warnings.
-/

namespace VendorLaunch.Log

/-- The level that takes everything. -/
def notSet : Int := 0
/-- The level of records for whoever looks for a defect. -/
def debug : Int := LogRecord.debugLevel
/-- The level of notable events. -/
def info : Int := LogRecord.infoLevel
/-- The level of warnings. -/
def warning : Int := 30
/-- The level of errors. -/
def error : Int := 40
/-- The level of errors that end the program. -/
def critical : Int := 50

/-- The names that set a level. -/
def levelNames : List (String × Int) :=
  [("CRITICAL", critical), ("FATAL", critical), ("ERROR", error), ("WARN", warning),
    ("WARNING", warning), ("INFO", info), ("DEBUG", debug), ("NOTSET", notSet)]

/-- The level that a text sets. -/
def levelOf (text : String) : Int :=
  let name := Text.upper text
  match levelNames.find? fun n => n.1 == name with
  | some n => n.2
  | none => warning

/-- The name of a level. -/
def levelName (level : Int) : String :=
  if level = critical then "CRITICAL"
  else if level = error then "ERROR"
  else if level = warning then "WARNING"
  else if level = info then "INFO"
  else if level = debug then "DEBUG"
  else if level = notSet then "NOTSET"
  else "Level " ++ toString level

end VendorLaunch.Log
