import ServerTelemetry.Duration.Basic
import ServerTelemetry.Extractor
import ServerTelemetry.Labels
import ServerTelemetry.Propagation.Propagator

/-!
# Configurations

What an operator can set. Every setting has a default, so there is a default configuration, and
every configuration differs from it in the settings that were given.
-/

namespace ServerTelemetry

/-- The protocol spans are sent to a collector with. -/
inductive Protocol where
  | grpc
  | http
  deriving DecidableEq, Repr

namespace Protocol

/-- All protocols, in the order they are listed to users. -/
def all : List Protocol := [grpc, http]

/-- The name of the protocol in documents. -/
def name : Protocol → Text
  | grpc => "grpc".toList
  | http => "http".toList

/-- The name of the protocol in the environment. -/
def environmentName : Protocol → Text
  | grpc => "grpc".toList
  | http => "http/protobuf".toList

end Protocol

/-- The form of log lines. -/
inductive LogFormat where
  | text
  | json
  deriving DecidableEq, Repr

namespace LogFormat

/-- All forms, in the order they are listed to users. -/
def all : List LogFormat := [text, json]

/-- The name of the form in documents. -/
def name : LogFormat → Text
  | text => "text".toList
  | json => "json".toList

end LogFormat

/-- An exporter that a program may be built without. -/
inductive Exporter where
  /-- The exporter that prints spans. -/
  | logging
  /-- The exporter that sends spans to a collector. -/
  | otlp
  deriving DecidableEq, Repr

namespace Exporter

/-- The name of the exporter. -/
def name : Exporter → Text
  | logging => "logging".toList
  | otlp => "otlp".toList

/-- The feature a program is built with to have the exporter. -/
def feature : Exporter → Text
  | logging => "logging-exporter".toList
  | otlp => "otlp".toList

end Exporter

/-- The exporter that sends spans to a collector. -/
structure OtlpSettings where
  enabled : Bool := false
  /-- Where the collector is; each protocol has a place of its own on this machine. -/
  endpoint : Option Text := none
  protocol : Protocol := .grpc
  timeout : Duration := .ofMillis 10000
  deriving DecidableEq, Repr

/-- What becomes of finished spans. -/
structure ExporterSettings where
  logging : Bool := false
  /-- Whether and how they are sent to a collector. -/
  otlp : OtlpSettings := {}
  deriving DecidableEq, Repr

/-- What telemetry is made and where it goes. -/
structure TelemetrySettings where
  enabled : Bool := true
  serviceName : Option Text := none
  resource : Labels := .empty
  /-- The formats callers may send their context in. -/
  propagators : List Propagator := [.traceContext, .baggage]
  /-- What becomes of finished spans. -/
  exporters : ExporterSettings := {}
  deriving DecidableEq, Repr

/-- The spans of handled requests. -/
structure ServerSettings where
  /-- Whether there is a span for every request. -/
  enabled : Bool := true
  recorded : ExtractorOptions := {}
  deriving DecidableEq, Repr

/-- The log of the process. -/
structure LoggingSettings where
  /-- Which events it has, where the environment does not say. -/
  level : Text := "info".toList
  format : LogFormat := .text
  deriving DecidableEq, Repr

/-- A configuration. -/
structure Configuration where
  /-- What telemetry is made and where it goes. -/
  telemetry : TelemetrySettings := {}
  /-- The spans of handled requests. -/
  server : ServerSettings := {}
  logging : LoggingSettings := {}
  deriving DecidableEq, Repr

end ServerTelemetry
