import ServerTelemetry.Text.Blank

/-!
# Log events

An event has a level, the module it comes from, a message and named values. Whether and how it is
printed is decided elsewhere.
-/

namespace ServerTelemetry

/-- How much an event matters, from the most to the least. -/
inductive LogLevel where
  | error
  | warn
  /-- Something happened that matters to an operator. -/
  | info
  /-- Something happened that matters to a developer. -/
  | debug
  | trace
  deriving DecidableEq, Repr

/-- The level as events show it. -/
def LogLevel.name : LogLevel → Text
  | .error => "ERROR".toList
  | .warn => "WARN".toList
  | .info => "INFO".toList
  | .debug => "DEBUG".toList
  | .trace => "TRACE".toList

/-- The rank of a level; a filter for a level lets through all ranks up to its own. -/
def LogLevel.rank : LogLevel → Nat
  | .error => 1
  | .warn => 2
  | .info => 3
  | .debug => 4
  | .trace => 5

/-- A value of an event. -/
inductive LogValue where
  /-- A text that lines show as it is. -/
  | shown (value : Text)
  /-- A text that lines show in quotes. -/
  | quoted (value : Text)
  | number (value : Nat)
  | flag (value : Bool)
  deriving DecidableEq, Repr

/-- A log event. -/
structure LogEvent where
  level : LogLevel
  target : Text
  message : Text
  fields : List (Text × LogValue)
  deriving DecidableEq, Repr

end ServerTelemetry
