import ServerTelemetry.Collector
import ServerTelemetry.Resource
import ServerTelemetry.Session
import ServerTelemetry.Text.Sorted

/-!
# What a configuration sets up

Wiring turns a configuration into the parts a process installs: where its spans go, the formats its
callers may send their context in, and the layer around its handlers. What is set up is logged on
the way, so a wiring that fails has logged what came before the failure.

A configuration that turns telemetry off sets up nothing but a layer that forwards requests,
whatever else it says.
-/

namespace ServerTelemetry

/-- Where finished spans go. -/
structure Provider where
  /-- The attributes all spans share. -/
  resource : Labels
  printing : Bool
  /-- The collector spans are sent to. -/
  collector : Option Collector
  recording : Recording
  deriving DecidableEq, Repr

/-- The parts a configuration sets up. -/
structure Wiring where
  /-- Where finished spans go; nowhere if telemetry is off. -/
  provider : Option Provider
  /-- The formats callers may send their context in. -/
  propagators : List Propagator
  /-- The layer around the handlers. -/
  layer : Layer
  deriving DecidableEq, Repr

/-- The headers that several formats use, in order. -/
def Propagator.headers (ps : List Propagator) : List Text :=
  Text.sorted (ps.flatMap fields)

namespace Wiring

/-- Whether telemetry is on. -/
def enabled (w : Wiring) : Bool :=
  w.provider.isSome

/-! ## Events -/

/-- An event of wiring. -/
def event (level : LogLevel) (message : String) (fields : List (Text × LogValue)) : LogEvent :=
  ⟨level, "webtrace_autoconfigure::autoconfigure".toList, message.toList, fields⟩

/-- Telemetry is off. -/
def disabledEvent : LogEvent :=
  event .info "telemetry is disabled" []

/-- Spans are printed. -/
def printingEvent : LogEvent :=
  event .info "exporting spans to stdout" []

/-- Spans go nowhere. -/
def droppingEvent : LogEvent :=
  event .warn "telemetry is enabled but no exporter is; spans will be dropped" []

/-- The layer is set up. -/
def layerEvent (enabled : Bool) : LogEvent :=
  event .debug "configured HTTP server instrumentation" [("enabled".toList, .flag enabled)]

/-- Spans are sent to a collector. -/
def sendingEvent (c : Collector) : LogEvent where
  level := .info
  target := "webtrace_autoconfigure::otlp".toList
  message := match c.protocol with
    | .grpc => "exporting spans over OTLP/gRPC".toList
    | .http => "exporting spans over OTLP/HTTP".toList
  fields := [("endpoint".toList, .shown c.url.write),
    ("timeout".toList, .shown c.timeout.shortForm)]

/-! ## Parts -/

/-- The layer that settings describe. -/
def layerOf (s : ServerSettings) : Layer where
  extractor := .ofOptions s.recorded
  enabled := s.enabled

/-- An exporter that is asked for must be there. -/
def require (features : Exporter → Bool) (exporter : Exporter) : Except ConfigurationError Unit :=
  if features exporter then .ok () else .error (.unavailable exporter)

/-- The collector, if spans are to be sent to one. -/
def collectorOf (features : Exporter → Bool) (o : OtlpSettings) :
    Except ConfigurationError (Option Collector) :=
  if o.enabled then do
    require features .otlp
    return some (← Collector.ofSettings o)
  else .ok none

/-- What is logged when the exporters are there and the layer is set up. -/
def events (e : ExporterSettings) (layer : Layer) : List LogEvent :=
  (if ! e.logging && ! e.otlp.enabled then [droppingEvent] else []) ++ [layerEvent layer.enabled]

/-- Sets up what a configuration asks for, in a process with some variables. The exporter that
prints spans comes before the one that sends them, which is logged before it is built. -/
def ofConfiguration (features : Exporter → Bool) (vars : Text → Option Text) (c : Configuration) :
    List LogEvent × Except ConfigurationError Wiring :=
  let layer := layerOf c.server
  let t := c.telemetry
  let e := t.exporters
  if ! t.enabled then ([disabledEvent], .ok ⟨none, [], { layer with enabled := false }⟩)
  else if e.logging && ! features .logging then ([], .error (.unavailable .logging))
  else
    let printing := if e.logging then [printingEvent] else []
    match collectorOf features e.otlp with
    | .error error => (printing, .error error)
    | .ok collector =>
      let exporting := printing ++ (collector.map sendingEvent).toList
      match collector.bind (·.buildError? vars) with
      | some error => (exporting, .error (.build .otlp error))
      | none =>
        let provider : Provider := {
          resource := Resource.configured t (Resource.detected vars)
          printing := e.logging
          collector := collector
          recording := .ofVariables vars }
        (exporting ++ events e layer, .ok ⟨some provider, t.propagators, layer⟩)

end Wiring

end ServerTelemetry
