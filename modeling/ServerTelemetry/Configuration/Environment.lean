import ServerTelemetry.Configuration.Error
import ServerTelemetry.Text.Letters

/-!
# Settings of the environment

Each of twelve variables may override a part of the configuration; one that is unset or blank does
not. They are applied in a fixed order, and the first one that is malformed ends it: what was
applied before it stays. The list of exporters is applied name by name, after both exporters were
turned off, so what its names before a malformed one say stays too.
-/

namespace ServerTelemetry

open Text

/-- The values of the variables. -/
abbrev Environment := Variable → Option Text

namespace Environment

/-- The value of a variable, unless it is unset or blank. -/
def filled? (e : Environment) (v : Variable) : Option Text :=
  (e v).filter (! ·.blank)

/-- The variables of a process, of which the last one of a name counts. -/
def ofList (vars : List (Text × Text)) : Environment := fun v =>
  vars.reverse.lookup v.name

end Environment

namespace Configuration

/-- A truth value in any case, blanks around it allowed. -/
def flagOf? (s : Text) : Option Bool :=
  let word := lower (trim s)
  if word = "true".toList then some true
  else if word = "false".toList then some false
  else none

/-- The protocol of a name, blanks around it allowed. -/
def protocolOf? (s : Text) : Option Protocol :=
  Protocol.all.find? (·.environmentName == trim s)

/-- A number of milliseconds, blanks around it allowed. -/
def millisOf? (s : Text) : Option Duration :=
  (readUInt64 (trim s)).map fun n => .ofMillis (UInt64.ofNat n)

/-- The propagation formats of a list of names, or the first name that is none. A lone `none` stands
for no formats. -/
def propagatorsOf (s : Text) : Except Text (List Propagator) :=
  let names := items s
  if names = ["none".toList] then .ok []
  else names.mapM fun name =>
    match Propagator.ofName? name with
    | some p => .ok p
    | none => .error name

/-- Turns on the exporters of a list, and tells whether all names were known. -/
def turnOn : List Text → ExporterSettings → ExporterSettings × Bool
  | [], e => (e, true)
  | name :: names, e =>
    if name = "otlp".toList then turnOn names { e with otlp := { e.otlp with enabled := true } }
    else if name = "logging".toList ∨ name = "console".toList then
      turnOn names { e with logging := true }
    else if name = "none".toList then turnOn names e
    else (e, false)

/-- Turns off both exporters. -/
def turnOff (e : ExporterSettings) : ExporterSettings :=
  { e with logging := false, otlp := { e.otlp with enabled := false } }

/-- The configuration with other settings for the exporter that sends spans. -/
def withOtlp (c : Configuration) (change : OtlpSettings → OtlpSettings) : Configuration :=
  let exporters := c.telemetry.exporters
  { c with telemetry :=
    { c.telemetry with exporters := { exporters with otlp := change exporters.otlp } } }

/-- The configuration with other rules for what spans record. -/
def withRecorded (c : Configuration) (change : ExtractorOptions → ExtractorOptions) :
    Configuration :=
  { c with server := { c.server with recorded := change c.server.recorded } }

/-- A configuration to go on with, and the error that ends going on. -/
abbrev Override := Configuration × Option ConfigurationError

/-- Overrides what a value stands for; one that stands for nothing is an error. -/
def overrideIf {α : Type} (c : Configuration) (v : Variable) (value : Text)
    (read : Option α) (put : α → Configuration) : Override :=
  match read with
  | some setting => (put setting, none)
  | none => (c, some (.environment v value))

/-- Overrides what one variable says, which is not blank. -/
def override (c : Configuration) (value : Text) : Variable → Override
  | .disabled =>
    overrideIf c .disabled value (flagOf? value) fun disabled =>
      { c with telemetry := { c.telemetry with enabled := ! disabled } }
  | .serviceName =>
    ({ c with telemetry := { c.telemetry with serviceName := some value } }, none)
  | .propagators =>
    match propagatorsOf value with
    | .ok propagators =>
      ({ c with telemetry := { c.telemetry with propagators := propagators } }, none)
    | .error name => (c, some (.propagator name))
  | .exporters =>
    let (exporters, known) := turnOn (items value) (turnOff c.telemetry.exporters)
    ({ c with telemetry := { c.telemetry with exporters := exporters } },
      if known then none else some (.environment .exporters value))
  | .endpoint => (c.withOtlp fun o => { o with endpoint := some value }, none)
  | .protocol =>
    overrideIf c .protocol value (protocolOf? value) fun protocol =>
      c.withOtlp fun o => { o with protocol := protocol }
  | .timeout =>
    overrideIf c .timeout value (millisOf? value) fun timeout =>
      c.withOtlp fun o => { o with timeout := timeout }
  | .serverEnabled =>
    overrideIf c .serverEnabled value (flagOf? value) fun enabled =>
      { c with server := { c.server with enabled := enabled } }
  | .requestHeaders =>
    (c.withRecorded fun o => { o with capturedRequestHeaders := items value }, none)
  | .responseHeaders =>
    (c.withRecorded fun o => { o with capturedResponseHeaders := items value }, none)
  | .knownMethods => (c.withRecorded fun o => { o with knownMethods := items value }, none)
  | .preferForwardedScheme =>
    overrideIf c .preferForwardedScheme value (flagOf? value) fun prefer =>
      c.withRecorded fun o => { o with preferForwardedScheme := prefer }

/-- Overrides what some variables say, up to the first that is malformed. -/
def overrideAll (e : Environment) : List Variable → Configuration → Override
  | [], c => (c, none)
  | v :: rest, c =>
    match e.filled? v with
    | none => overrideAll e rest c
    | some value =>
      match c.override value v with
      | (c, none) => overrideAll e rest c
      | (c, some error) => (c, some error)

/-- Overrides what the environment says. -/
def apply (c : Configuration) (e : Environment) : Override :=
  overrideAll e Variable.all c

/-- The configuration with what the environment overrides, unless some of that is malformed. -/
def withEnvironment (c : Configuration) (e : Environment) :
    Except ConfigurationError Configuration :=
  match c.apply e with
  | (c, none) => .ok c
  | (_, some error) => .error error

end Configuration

end ServerTelemetry
