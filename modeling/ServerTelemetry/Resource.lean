import ServerTelemetry.Configuration.Basic
import ServerTelemetry.Text.Pieces

/-!
# The resource of a process

The attributes that all spans of a process share. Some are found without being configured: the name
of the service and a list of attributes in the environment, and which library makes the telemetry.
What is configured comes on top of them, and the configured name of the service on top of that.
-/

namespace ServerTelemetry.Resource

open Text

/-- The attribute with the name of the service. -/
def serviceNameKey : Text :=
  "service.name".toList

/-- The variable with the name of the service. -/
def serviceNameVariable : Text :=
  "OTEL_SERVICE_NAME".toList

/-- The variable with a list of attributes. -/
def attributesVariable : Text :=
  "OTEL_RESOURCE_ATTRIBUTES".toList

/-- The attributes of a list such as `a=1, b=2`; an entry without an equals sign is none. -/
def readAttributes (s : Text) : List (Text × Text) :=
  (pieces ',' s).filterMap fun entry =>
    (cut '=' entry).map fun (name, value) => (trim name, trim value)

/-- What is known of the library that makes the telemetry. -/
def library : List (Text × Text) :=
  [("telemetry.sdk.language".toList, "rust".toList),
    ("telemetry.sdk.name".toList, "opentelemetry".toList),
    ("telemetry.sdk.version".toList, "0.30.0".toList)]

/-- The attributes that are found without being configured, given the variables of the process. -/
def detected (vars : Text → Option Text) : Labels :=
  let listed := Labels.empty.insertAll
    (((vars attributesVariable).map readAttributes).getD [])
  let name := (((vars serviceNameVariable).bind nonEmpty?).or
    (listed.find? serviceNameKey)).getD "unknown_service".toList
  ((Labels.empty.insert serviceNameKey name).insertAll library).insertAll listed.entries

/-- The attributes with what is configured on top of what is found. -/
def configured (t : TelemetrySettings) (found : Labels) : Labels :=
  let labels := found.insertAll t.resource.entries
  match t.serviceName with
  | some name => labels.insert serviceNameKey name
  | none => labels

end ServerTelemetry.Resource
