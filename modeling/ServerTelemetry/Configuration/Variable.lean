import ServerTelemetry.Text.Blank

/-!
# Variables of the environment

The settings that a process environment may have, with their names there.
-/

namespace ServerTelemetry

/-- A setting of the environment. -/
inductive Variable where
  | disabled
  | serviceName
  | propagators
  | exporters
  | endpoint
  /-- The protocol spans are sent with. -/
  | protocol
  /-- How long sending may take, in milliseconds. -/
  | timeout
  /-- Whether there is a span for every request. -/
  | serverEnabled
  /-- The request headers to record. -/
  | requestHeaders
  /-- The response headers to record. -/
  | responseHeaders
  /-- The methods recorded as they are. -/
  | knownMethods
  /-- Whether the scheme a proxy reports comes first. -/
  | preferForwardedScheme
  deriving DecidableEq, Repr

/-- All settings, in the order they are applied. -/
def Variable.all : List Variable :=
  [disabled, serviceName, propagators, exporters, endpoint, protocol, timeout, serverEnabled,
    requestHeaders, responseHeaders, knownMethods, preferForwardedScheme]

/-- The name of a setting in the environment. -/
def Variable.name : Variable → Text
  | disabled => "OTEL_SDK_DISABLED".toList
  | serviceName => "OTEL_SERVICE_NAME".toList
  | propagators => "OTEL_PROPAGATORS".toList
  | exporters => "OTEL_TRACES_EXPORTER".toList
  | endpoint => "OTEL_EXPORTER_OTLP_ENDPOINT".toList
  | protocol => "OTEL_EXPORTER_OTLP_PROTOCOL".toList
  | timeout => "OTEL_EXPORTER_OTLP_TIMEOUT".toList
  | serverEnabled => "OTEL_INSTRUMENTATION_HTTP_SERVER_ENABLED".toList
  | requestHeaders => "OTEL_INSTRUMENTATION_HTTP_CAPTURE_HEADERS_SERVER_REQUEST".toList
  | responseHeaders => "OTEL_INSTRUMENTATION_HTTP_CAPTURE_HEADERS_SERVER_RESPONSE".toList
  | knownMethods => "OTEL_INSTRUMENTATION_HTTP_KNOWN_METHODS".toList
  | preferForwardedScheme => "OTEL_INSTRUMENTATION_HTTP_PREFER_FORWARDED_URL_SCHEME".toList

end ServerTelemetry
