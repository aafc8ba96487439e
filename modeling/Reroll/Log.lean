/-!
# Log records

What the program tells its operator, apart from the events of a run.
-/

namespace Reroll

/-- How much a record matters. -/
inductive LogLevel where
  | trace
  | debug
  | info
  | success
  | warning
  | error
  | critical
  deriving DecidableEq, Repr

namespace LogLevel

/-- The name of a level. -/
def name : LogLevel → String
  | .trace => "TRACE"
  | .debug => "DEBUG"
  | .info => "INFO"
  | .success => "SUCCESS"
  | .warning => "WARNING"
  | .error => "ERROR"
  | .critical => "CRITICAL"

/-- The weight of a level. -/
def severity : LogLevel → Nat
  | .trace => 5
  | .debug => 10
  | .info => 20
  | .success => 25
  | .warning => 30
  | .error => 40
  | .critical => 50

/-- All levels, the lightest first. -/
def all : List LogLevel := [.trace, .debug, .info, .success, .warning, .error, .critical]

/-- The level with the given name. -/
def ofName? (s : String) : Option LogLevel := all.find? fun l => l.name == s

end LogLevel

/-- One record. -/
structure LogRecord where
  level : LogLevel
  message : String
  deriving DecidableEq

namespace Log

/-- The records of at least the given level. -/
def atLeast (level : LogLevel) (records : List LogRecord) : List LogRecord :=
  records.filter fun r => level.severity ≤ r.level.severity

end Log

end Reroll
