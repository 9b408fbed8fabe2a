import ServerTelemetry.Configuration.Basic
import ServerTelemetry.Document.Decoder
import ServerTelemetry.Value.Basic
import ServerTelemetry.Yaml.Grammar

/-!
# Configurations as documents

A configuration is written as a document in sections. `Configuration.toValue` writes all of them,
and `Configuration.decode` puts what is written on top of the defaults, so a document need not
mention what it does not change. A text of blanks alone is the default configuration too.
-/

namespace ServerTelemetry

open Document

namespace Configuration

/-! ## Sections -/

/-- The words for the propagation formats. -/
def propagatorWords : List (Text × Propagator) :=
  Propagator.all.map fun p => (p.name, p)

/-- The words for the protocols. -/
def protocolWords : List (Text × Protocol) :=
  Protocol.all.map fun p => (p.name, p)

/-- The words for the forms of log lines. -/
def logFormatWords : List (Text × LogFormat) :=
  LogFormat.all.map fun f => (f.name, f)

/-- The exporter that prints spans. -/
def loggingExporterSection : Section Bool where
  kind := "LoggingExporter".toList
  fields := [.of "enabled" .flag fun enabled _ => enabled]

/-- The exporter that sends spans to a collector. -/
def otlpSection : Section OtlpSettings where
  kind := "Otlp".toList
  fields := [
    .of "enabled" .flag fun enabled o => { o with enabled := enabled },
    .of "endpoint" .text? fun endpoint o => { o with endpoint := endpoint },
    .of "protocol" (.word "Protocol".toList protocolWords) fun protocol o =>
      { o with protocol := protocol },
    .of "timeout" .duration fun timeout o => { o with timeout := timeout }]

/-- The exporters. -/
def exportersSection : Section ExporterSettings where
  kind := "Exporters".toList
  fields := [
    .of "logging" (loggingExporterSection.decode false) fun enabled e =>
      { e with logging := enabled },
    .of "otlp" (otlpSection.decode {}) fun otlp e => { e with otlp := otlp }]

/-- What telemetry is made and where it goes. -/
def telemetrySection : Section TelemetrySettings where
  kind := "Telemetry".toList
  fields := [
    .of "enabled" .flag fun enabled t => { t with enabled := enabled },
    .of "service_name" .text? fun name t => { t with serviceName := name },
    .of "resource" .labels fun resource t => { t with resource := resource },
    .of "propagators" (.list (.word "Propagator".toList propagatorWords)) fun propagators t =>
      { t with propagators := propagators },
    .of "exporters" (exportersSection.decode {}) fun exporters t =>
      { t with exporters := exporters }]

/-- The spans of handled requests. -/
def serverSection : Section ServerSettings where
  kind := "HttpServerInstrumentation".toList
  fields := [
    .of "enabled" .flag fun enabled s => { s with enabled := enabled },
    .of "captured_request_headers" (.list .text) fun names s =>
      { s with recorded := { s.recorded with capturedRequestHeaders := names } },
    .of "captured_response_headers" (.list .text) fun names s =>
      { s with recorded := { s.recorded with capturedResponseHeaders := names } },
    .of "prefer_forwarded_url_scheme" .flag fun prefer s =>
      { s with recorded := { s.recorded with preferForwardedScheme := prefer } },
    .of "known_methods" (.list .text) fun methods s =>
      { s with recorded := { s.recorded with knownMethods := methods } }]

/-- What is recorded of HTTP. -/
def httpSection : Section ServerSettings where
  kind := "HttpInstrumentation".toList
  fields := [.of "server" (serverSection.decode {}) fun server _ => server]

/-- What is recorded. -/
def instrumentationSection : Section ServerSettings where
  kind := "Instrumentation".toList
  fields := [.of "http" (httpSection.decode {}) fun server _ => server]

/-- The log of the process. -/
def loggingSection : Section LoggingSettings where
  kind := "Logging".toList
  fields := [
    .of "level" .text fun level l => { l with level := level },
    .of "format" (.word "LogFormat".toList logFormatWords) fun format l =>
      { l with format := format }]

/-- A whole document. -/
def rootSection : Section Configuration where
  kind := "Configuration".toList
  fields := [
    .of "telemetry" (telemetrySection.decode {}) fun telemetry c =>
      { c with telemetry := telemetry },
    .of "instrumentation" (instrumentationSection.decode {}) fun server c =>
      { c with server := server },
    .of "logging" (loggingSection.decode {}) fun logging c => { c with logging := logging }]

/-- The configuration a document's root stands for. -/
def decode (named : Yaml.Named) (root : Yaml.Node) : Except Misfit Configuration :=
  rootSection.decode {} named [] root

/-! ## Texts -/

/-- Why a text is no configuration. -/
inductive DocumentError where
  | malformed
  | absent
  /-- A value of the document does not fit. -/
  | misfit (misfit : Misfit)
  /-- The text has more than one document. -/
  | several
  deriving DecidableEq, Repr

/-- The wording of the error; only misfits have one. -/
def DocumentError.message? : DocumentError → Option Text
  | .misfit m => m.message?
  | _ => none

/-- The configuration a text stands for. The first document is read before it is asked whether there
are more. -/
def ofText (s : Text) : Except DocumentError Configuration :=
  if s.blank then .ok {}
  else
    match Yaml.Documents.read? s with
    | none => .error .malformed
    | some ⟨[], _⟩ => .error .absent
    | some ⟨root :: more, named⟩ => do
      let configuration ← (decode named root).mapError .misfit
      if more.isEmpty then return configuration else throw .several

/-! ## Writing -/

/-- A record with fields of given names. -/
def recordOf (fields : List (String × Value)) : Value :=
  .record (fields.map fun (name, value) => (name.toList, value))

/-- The exporter that sends spans to a collector, as a value. -/
def otlpValue (o : OtlpSettings) : Value :=
  recordOf [
    ("enabled", .flag o.enabled),
    ("endpoint", .text? o.endpoint),
    ("protocol", .text o.protocol.name),
    ("timeout", .text o.timeout.write)]

/-- The exporters as a value. -/
def exportersValue (e : ExporterSettings) : Value :=
  recordOf [("logging", recordOf [("enabled", .flag e.logging)]), ("otlp", otlpValue e.otlp)]

/-- The telemetry settings as a value. -/
def telemetryValue (t : TelemetrySettings) : Value :=
  recordOf [
    ("enabled", .flag t.enabled),
    ("service_name", .text? t.serviceName),
    ("resource", .record (t.resource.entries.map fun (name, text) => (name, .text text))),
    ("propagators", .texts (t.propagators.map (·.name))),
    ("exporters", exportersValue t.exporters)]

/-- The server settings as a value. -/
def serverValue (s : ServerSettings) : Value :=
  recordOf [
    ("enabled", .flag s.enabled),
    ("captured_request_headers", .texts s.recorded.capturedRequestHeaders),
    ("captured_response_headers", .texts s.recorded.capturedResponseHeaders),
    ("prefer_forwarded_url_scheme", .flag s.recorded.preferForwardedScheme),
    ("known_methods", .texts s.recorded.knownMethods)]

/-- The log settings as a value. -/
def loggingValue (l : LoggingSettings) : Value :=
  recordOf [("level", .text l.level), ("format", .text l.format.name)]

/-- The configuration as a value, with all its settings. -/
def toValue (c : Configuration) : Value :=
  recordOf [
    ("telemetry", telemetryValue c.telemetry),
    ("instrumentation", recordOf [("http", recordOf [("server", serverValue c.server)])]),
    ("logging", loggingValue c.logging)]

end Configuration

end ServerTelemetry
