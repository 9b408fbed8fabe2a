import ServerTelemetry.Propagation.Propagator
import ServerTelemetry.Shared
import ServerTelemetry.Span.Open

/-!
# A service under telemetry

A layer opens a span for every request that passes it and closes the span with the request's
outcome. A `Service` is what a caller sees: layers around the actual handler, outermost first.

The future of a call remembers for each layer the span it opened, until the span is taken out to be
closed: in the poll that yields an outcome, the innermost first, or when the future is dropped, the
outermost first. The handler is called and polled inside the contexts of all its spans, which are
attached for just that long.
-/

namespace ServerTelemetry

/-- A telemetry layer. -/
structure Layer where
  extractor : Extractor
  /-- A layer that is not enabled forwards requests untouched. -/
  enabled : Bool
  deriving DecidableEq, Repr

/-- The layer as it is shown to developers. -/
def Layer.write (l : Layer) : Text :=
  "HttpServerTelemetryLayer \x7b enabled: ".toList
    ++ (if l.enabled then "true".toList else "false".toList) ++ ", .. \x7d".toList

/-- The layers around a handler. -/
structure Service where
  /-- The formats callers may send their context in. -/
  propagators : List Propagator
  /-- What the server notes about the connection of every request. -/
  connection : Option Http.Connection
  layers : List Layer
  /-- What is recorded of their spans. -/
  recording : Recording := {}
  deriving DecidableEq, Repr

/-- The future of a call: for each layer, outermost first, the span it still has open. -/
abbrev Future := List (Option OpenSpan)

namespace Future

/-- What is seen of a future that is polled. -/
structure Polled where
  future : Future
  /-- The spans that were closed, in order. -/
  closed : List Closed
  /-- Whether the handler was polled in a span. -/
  inSpan : Bool
  deriving DecidableEq, Repr

/-- Polls a future whose handler has this outcome to yield, if any. -/
def poll (outcome : Option Outcome) : Future → Shared → Polled × Shared
  | [], w => (⟨[], [], w.current.inSpan⟩, w)
  | none :: inner, w =>
    let (polled, w) := poll outcome inner w
    ({ polled with future := none :: polled.future }, w)
  | some span :: inner, w =>
    let (polled, w) := poll outcome inner (w.attach span.context)
    let w := w.detach
    match outcome with
    | some _ =>
      (⟨none :: polled.future, polled.closed ++ [span.close (w.holderAt span.place) outcome],
        polled.inSpan⟩, w)
    | none => ({ polled with future := some span :: polled.future }, w)

/-- Drops a future. Answers with what is left of it and the spans that were closed, in order. -/
def drop (w : Shared) : Future → Future × List Closed
  | [] => ([], [])
  | span :: inner =>
    let (left, closed) := drop w inner
    (none :: left, (span.map fun s => s.close (w.holderAt s.place) none).toList ++ closed)

end Future

namespace Service

/-- What comes of calling a service. -/
structure Called where
  /-- The request as the handler received it. -/
  received : Http.Request
  /-- The place of the holder attached to it. -/
  place : Option Nat
  /-- Whether the handler was called in a span. -/
  inSpan : Bool
  future : Future
  deriving DecidableEq, Repr

/-- The span that a layer opens for a request. -/
def opened (s : Service) (layer : Layer) (request : Http.Request) (w : Shared) : OpenSpan :=
  .start s.recording layer.extractor request
    (w.current.under (Propagator.extractAll? s.propagators request.headers)) w.depth w.next

/-- A request on its way through layers, the outermost first, with the place of the holder that is
attached to it. -/
def enter (s : Service) : List Layer → Http.Request → Option Nat → Shared → Called × Shared
  | [], request, place, w => (⟨request, place, w.current.inSpan, []⟩, w)
  | layer :: layers, request, place, w =>
    if layer.enabled then
      let span := s.opened layer request w
      let w := w.keep (OpenSpan.freshHolder layer.extractor request)
      let (called, w) := s.enter layers span.request (some span.place) (w.attach span.context)
      ({ called with future := some span :: called.future }, w.detach)
    else
      let (called, w) := s.enter layers request place w
      ({ called with future := none :: called.future }, w)

/-- Notes the connection on a request. -/
def inject (s : Service) (request : Http.Request) : Http.Request :=
  match s.connection with
  | some connection => { request with connection := some connection }
  | none => request

/-- Calls a service. A request may come with a holder, which nobody else has a hold of. -/
def call (s : Service) (request : Http.Request) (w : Shared) : Called × Shared :=
  let request := s.inject request
  match request.route with
  | some holder => s.enter s.layers request (some w.next) (w.keep holder)
  | none => s.enter s.layers request none w

end Service

end ServerTelemetry
