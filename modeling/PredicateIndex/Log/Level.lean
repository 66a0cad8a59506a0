/-!
# Levels of log records

The five levels in ascending order, with the numbers by which they are compared, the names under
which they are configured and written, and the other words that ask for them.
-/
namespace PredicateIndex

/-- How important a log record is. -/
inductive LogLevel where
  /-- For finding faults. -/
  | debug
  /-- The ordinary course of events. -/
  | info
  /-- Something odd. -/
  | warning
  /-- Something failed. -/
  | error
  /-- Nothing works any more. -/
  | critical
  deriving DecidableEq, Repr

namespace LogLevel

/-- All levels in ascending order. -/
def all : List LogLevel := [debug, info, warning, error, critical]

/-- The number of a level; a record is kept by what has at most its number. -/
def number : LogLevel → Nat
  | .debug => 10
  | .info => 20
  | .warning => 30
  | .error => 40
  | .critical => 50

/-- The name in a log record. -/
def name : LogLevel → String
  | .debug => "debug"
  | .info => "info"
  | .warning => "warning"
  | .error => "error"
  | .critical => "critical"

/-- The name in a configuration. -/
def settingName : LogLevel → String
  | .debug => "DEBUG"
  | .info => "INFO"
  | .warning => "WARNING"
  | .error => "ERROR"
  | .critical => "CRITICAL"

/-- The level that a word asks for: the name of a level or another word for one. -/
def ofWord? (word : String) : Option LogLevel :=
  (all.find? fun level => level.name == word).or
    ([("msg", info), ("warn", warning), ("exception", error), ("fatal", critical)].lookup word)

/-- What is said of a word that asks for no level, when a level is the least that is logged. -/
def unknownMessage (least : LogLevel) (word : String) : String :=
  let title := least.name.capitalize
  s!"'BoundLoggerFilteringAt{title}' object has no attribute '{word}'"

end LogLevel

end PredicateIndex
