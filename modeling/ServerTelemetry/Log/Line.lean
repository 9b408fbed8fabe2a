import ServerTelemetry.Log.Event
import ServerTelemetry.Text.Number
import ServerTelemetry.Text.Quoted

/-!
# Log lines

The line of text that an event is printed as: its message, and its values with their names. The
level and the module stand before it and are not part of it.
-/

namespace ServerTelemetry

/-- A value as lines show it. -/
def LogValue.write : LogValue → Text
  | shown value => value
  | quoted value => Text.quote value
  | number value => Text.decimal value
  | flag value => if value then "true".toList else "false".toList

/-- The line of an event. -/
def LogEvent.line (e : LogEvent) : Text :=
  e.message ++ e.fields.flatMap fun (name, value) => ' ' :: name ++ '=' :: value.write

end ServerTelemetry
