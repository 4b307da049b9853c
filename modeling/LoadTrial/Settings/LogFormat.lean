/-
How the log is written.
-/
import LoadTrial.Failure
import LoadTrial.Text.Blank
import LoadTrial.Text.Lower

namespace LoadTrial

inductive LogFormat where
  | console
  | json
  | compact
  deriving DecidableEq, Repr

namespace LogFormat

def name : LogFormat → String
  | .console => "console"
  | .json => "json"
  | .compact => "compact"

/-- reads a format, whatever the case of its letters and the blanks around it -/
def read (s : String) : Except Failure LogFormat :=
  let word := Text.lower (Text.trim s)
  if word == "console" || word == "pretty" then .ok .console
  else if word == "json" then .ok .json
  else if word == "compact" then .ok .compact
  else .error (.config ("Invalid log format: " ++ s))

end LogFormat

/-- how much is logged -/
inductive LogLevel where
  | warn
  | info
  | debug
  deriving DecidableEq, Repr

def LogLevel.name : LogLevel → String
  | .warn => "WARN"
  | .info => "INFO"
  | .debug => "DEBUG"

end LoadTrial
