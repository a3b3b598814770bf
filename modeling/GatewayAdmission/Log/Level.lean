/-!
# Levels and formats of the log

A threshold lets an event through if the event is at least as severe.
-/

namespace GatewayAdmission

/-- How severe an event is. -/
inductive LogLevel where
  | error
  | warn
  | info
  | debug
  | trace
deriving DecidableEq

namespace LogLevel

def all : List LogLevel := [error, warn, info, debug, trace]

/-- The name by which a threshold is chosen. -/
def name : LogLevel → String
  | error => "error"
  | warn => "warn"
  | info => "info"
  | debug => "debug"
  | trace => "trace"

def ofName? (s : String) : Option LogLevel := all.find? (·.name == s)

/-- The name in front of a line. -/
def heading : LogLevel → String
  | error => "ERROR"
  | warn => "WARN"
  | info => "INFO"
  | debug => "DEBUG"
  | trace => "TRACE"

/-- How many levels are more severe. -/
def rank : LogLevel → Nat
  | error => 0
  | warn => 1
  | info => 2
  | debug => 3
  | trace => 4

/-- Whether a threshold lets a level through. -/
def admits (threshold level : LogLevel) : Bool := level.rank ≤ threshold.rank

end LogLevel

/-- How the lines of the log are written. -/
inductive LogFormat where
  | text
  | json
deriving DecidableEq

namespace LogFormat

def all : List LogFormat := [text, json]

def name : LogFormat → String
  | text => "text"
  | json => "json"

def ofName? (s : String) : Option LogFormat := all.find? (·.name == s)

end LogFormat

end GatewayAdmission
