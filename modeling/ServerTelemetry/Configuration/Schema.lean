import ServerTelemetry.Configuration.Document

/-!
# The schema of configurations

A description of the document for editors: which properties every section has, what values they
take and what they are when left out. Sections and words are described once, under a name, and
referred to from where they are used. No section has properties besides the ones described.
-/

namespace ServerTelemetry

/-- What values a property takes. -/
inductive Shape where
  | flag
  | text
  | optionalText
  | list (items : Shape)
  /-- Records of texts under any names. -/
  | labels
  | reference (name : Text)
  deriving DecidableEq, Repr

/-- A property of a section. -/
structure Property where
  name : Text
  about : Option Text
  shape : Shape
  /-- Its value when it is left out. -/
  whenAbsent : Value

/-- A description under a name. -/
inductive Definition where
  /-- A section with its properties. -/
  | record (properties : List Property)
  | words (words : List Text)
  /-- Words, each with what it is for. -/
  | explained (words : List (Text × Text))

/-- The description of a document. -/
structure Schema where
  title : Text
  about : Text
  /-- The properties of the document. -/
  properties : List Property
  definitions : List (Text × Definition)

namespace Schema

open ServerTelemetry.Configuration (recordOf)

/-- A type by its name. -/
def typed (name : String) : String × Value :=
  ("type", .text name.toList)

/-- The part of a description that says what values are taken. -/
def shapeFields : Shape → List (String × Value)
  | .flag => [typed "boolean"]
  | .text => [typed "string"]
  | .optionalText => [("type", .texts ["string".toList, "null".toList])]
  | .list items => [typed "array", ("items", recordOf (shapeFields items))]
  | .labels => [typed "object", ("additionalProperties", recordOf [typed "string"])]
  | .reference name => [("$ref", .text ("#/definitions/".toList ++ name))]

/-- What is said of a property, apart from its name. A reference stands by itself, so that the rest
can be said beside it. -/
def propertyValue (p : Property) : Value :=
  let about := match p.about with
    | some about => [("description", Value.text about)]
    | none => []
  let shape := match p.shape with
    | .reference _ => [("allOf", .list [recordOf (shapeFields p.shape)])]
    | shape => shapeFields shape
  recordOf (about ++ [("default", p.whenAbsent)] ++ shape)

/-- What is said of a section. -/
def recordFields (properties : List Property) : List (String × Value) :=
  [typed "object",
    ("properties", .record (properties.map fun p => (p.name, propertyValue p))),
    ("additionalProperties", .flag false)]

/-- What is said of words. -/
def wordFields (words : List Text) : List (String × Value) :=
  [typed "string", ("enum", .texts words)]

/-- A definition as a value. -/
def definitionValue : Definition → Value
  | .record properties => recordOf (recordFields properties)
  | .words words => recordOf (wordFields words)
  | .explained words =>
    recordOf [("oneOf", .list (words.map fun (word, about) =>
      recordOf (("description", .text about) :: wordFields [word])))]

/-- The schema as a value. -/
def toValue (s : Schema) : Value :=
  recordOf ([("$schema", .text "http://json-schema.org/draft-07/schema#".toList),
      ("title", .text s.title), ("description", .text s.about)]
    ++ recordFields s.properties
    ++ [("definitions", .record (s.definitions.map fun (name, definition) =>
        (name, definitionValue definition)))])

end Schema

namespace Configuration

/-- A property that is described. -/
def property (name about : String) (shape : Shape) (whenAbsent : Value) : Property :=
  ⟨name.toList, some about.toList, shape, whenAbsent⟩

/-- A property that is a section of its own. -/
def sectionProperty (name : String) (about : Option String) (definition : String)
    (whenAbsent : Value) : Property :=
  ⟨name.toList, about.map String.toList, .reference definition.toList, whenAbsent⟩

/-- The properties of the section on telemetry. -/
def telemetryProperties : List Property :=
  let t : TelemetrySettings := {}
  [property "enabled"
      "Disabling telemetry keeps the instrumentation in place but records nothing"
      .flag (.flag t.enabled),
    property "service_name" "Value of the `service.name` resource attribute"
      .optionalText (.text? t.serviceName),
    property "resource" "Extra resource attributes" .labels (.record []),
    property "propagators" "Context propagation formats, in injection order"
      (.list (.reference "Propagator".toList)) (.texts (t.propagators.map (·.name))),
    sectionProperty "exporters" "Span exporters" "Exporters" (exportersValue t.exporters)]

/-- The properties of the section on the exporter that sends spans. -/
def otlpProperties : List Property :=
  let o : OtlpSettings := {}
  [property "enabled" "Enable otlp" .flag (.flag o.enabled),
    property "endpoint"
      "The endpoint to send data to; defaults to the local collector for the protocol"
      .optionalText (.text? o.endpoint),
    sectionProperty "protocol" "The protocol to use when sending data" "Protocol"
      (.text o.protocol.name),
    property "timeout" "Export timeout in human-readable format; defaults to 10s"
      .text (.text o.timeout.write)]

/-- The properties of the section on exporters. -/
def exportersProperties : List Property :=
  let e : ExporterSettings := {}
  [sectionProperty "logging" "Prints finished spans to stdout" "LoggingExporter"
      (recordOf [("enabled", .flag e.logging)]),
    sectionProperty "otlp" "Sends finished spans to an OTLP collector" "Otlp"
      (otlpValue e.otlp)]

/-- The properties of the section on the spans of handled requests. -/
def serverProperties : List Property :=
  let s : ServerSettings := {}
  [property "enabled" "Record a span for every handled request" .flag (.flag s.enabled),
    property "captured_request_headers"
      "Request headers recorded as `http.request.header.<name>` attributes"
      (.list .text) (.texts s.recorded.capturedRequestHeaders),
    property "captured_response_headers"
      "Response headers recorded as `http.response.header.<name>` attributes"
      (.list .text) (.texts s.recorded.capturedResponseHeaders),
    property "prefer_forwarded_url_scheme"
      "Take `url.scheme` from `Forwarded` or `X-Forwarded-Proto` when present"
      .flag (.flag s.recorded.preferForwardedScheme),
    property "known_methods" "Methods reported as is; anything else is reported as `_OTHER`"
      (.list .text) (.texts s.recorded.knownMethods)]

/-- The properties of the section on the log. -/
def loggingProperties : List Property :=
  let l : LoggingSettings := {}
  [property "level" "Filter directives used when `RUST_LOG` is not set" .text (.text l.level),
    sectionProperty "format" "Output format" "LogFormat" (.text l.format.name)]

/-- What a propagation format is. -/
def aboutPropagator : Propagator → Text
  | .traceContext => "W3C trace context".toList
  | .baggage => "W3C baggage".toList
  | .b3 => "Zipkin B3, single `b3` header".toList
  | .b3Multi => "Zipkin B3, one `X-B3-*` header per field".toList
  | .jaeger => "Jaeger `uber-trace-id`".toList

/-- The schema of configurations. -/
def schema : Schema where
  title := "Configuration".toList
  about := ("The full configuration of the telemetry starter.\n\n"
    ++ "Every section is optional; an empty document yields the defaults.").toList
  properties :=
    let server := serverValue {}
    [sectionProperty "telemetry" "OpenTelemetry SDK settings" "Telemetry" (telemetryValue {}),
      sectionProperty "instrumentation" "Library instrumentation settings" "Instrumentation"
        (recordOf [("http", recordOf [("server", server)])]),
      sectionProperty "logging" "Log output of the process" "Logging" (loggingValue {})]
  definitions := [
    ("Exporters".toList, .record exportersProperties),
    ("HttpInstrumentation".toList,
      .record [sectionProperty "server" none "HttpServerInstrumentation" (serverValue {})]),
    ("HttpServerInstrumentation".toList, .record serverProperties),
    ("Instrumentation".toList,
      .record [sectionProperty "http" none "HttpInstrumentation"
        (recordOf [("server", serverValue {})])]),
    ("LogFormat".toList, .words (LogFormat.all.map (·.name))),
    ("Logging".toList, .record loggingProperties),
    ("LoggingExporter".toList,
      .record [property "enabled" "Enable the stdout exporter" .flag (.flag false)]),
    ("Otlp".toList, .record otlpProperties),
    ("Propagator".toList,
      .explained (Propagator.all.map fun p => (p.name, aboutPropagator p))),
    ("Protocol".toList, .words (Protocol.all.map (·.name))),
    ("Telemetry".toList, .record telemetryProperties)]

end Configuration

end ServerTelemetry
