/-!
# Log entries

What the engine reports while it works: a level, the part of the engine that speaks, and a
message. Entries carry no time.
-/

namespace PredictionLeague

/-- How serious a log entry is. -/
inductive LogLevel
  | debug
  | info
  | warning
  | error
  | critical
  deriving DecidableEq

namespace LogLevel

/-- The name shown in a log line. -/
def name : LogLevel → String
  | debug => "DEBUG"
  | info => "INFO"
  | warning => "WARNING"
  | error => "ERROR"
  | critical => "CRITICAL"

end LogLevel

/-- The part of the engine that speaks. -/
inductive LogSource
  | aggregation
  | boosts
  | ranking
  | prizes
  | settlement
  | tasks
  | logging
  deriving DecidableEq

/-- One line of the log. -/
structure LogEntry where
  level : LogLevel
  source : LogSource
  message : String
  deriving DecidableEq

end PredictionLeague
