import ServerTelemetry.Configuration.Error
import ServerTelemetry.Text.Utf8

/-!
# Configuration files

A configuration is read from a file by its path. The file may not be readable, it may hold bytes
that are no text, and its text may be no configuration, in this order.
-/

namespace ServerTelemetry.Configuration

/-- The configuration in the file at a path. -/
def ofFile (read : FileReader) (path : Text) : Except ConfigurationError Configuration := do
  let bytes ← (read path).mapError (.file path)
  match Text.utf8Decode bytes with
  | none => throw (.file path .notText)
  | some s => (ofText s).mapError .document

end ServerTelemetry.Configuration
