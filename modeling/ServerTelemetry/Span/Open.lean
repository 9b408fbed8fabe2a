import ServerTelemetry.Extractor
import ServerTelemetry.Http.Message
import ServerTelemetry.Log.Event
import ServerTelemetry.Span.Sampler

/-!
# Open spans

The span of a request that is being handled. It is opened when the request arrives, with a fresh
holder for the request's route, and closed with the outcome of the request: a response, a failure, or
none where the request was cancelled. The holder is kept elsewhere, as the handler offers routes to
it; the span knows its place and is closed with what it holds by then. Closing logs what happened
and reports the span if it is recorded.
-/

namespace ServerTelemetry

/-- How the handling of a request ended. -/
inductive Outcome where
  | response (response : Http.Response)
  | failure (error : Text)
  deriving DecidableEq, Repr

/-- The span of a request that is being handled. -/
structure OpenSpan where
  extractor : Extractor
  request : Http.Request
  parent : Parent
  /-- How many spans of the same request are around it. -/
  depth : Nat
  sampled : Bool
  attributeLimit : Nat
  name : Text
  /-- The attributes it was opened with. -/
  attributes : List Attribute
  /-- The place of the holder of the request's route. -/
  place : Nat
  deriving DecidableEq, Repr

/-- What is seen of a span that is closed: an event, and the span itself if it is recorded. -/
structure Closed where
  log : LogEvent
  span : Option Span
  deriving DecidableEq, Repr

namespace OpenSpan

/-- The holder for the route of a request, as it is when the request arrives. -/
def freshHolder (extractor : Extractor) (request : Http.Request) : RouteHolder :=
  .new (extractor.spanName request.facts none)

/-- Opens the span of a request, whose fresh holder has this place. The holder is attached to the
request first, so no route is known yet. -/
def start (recording : Recording) (extractor : Extractor) (request : Http.Request)
    (parent : Parent) (depth place : Nat) : OpenSpan :=
  let holder := freshHolder extractor request
  let request := { request with route := some holder }
  { extractor := extractor
    request := request
    parent := parent
    depth := depth
    sampled := recording.sampler.samples parent
    attributeLimit := recording.attributeLimit
    name := holder.spanName
    attributes := extractor.onStart request.facts
    place := place }

/-- The span as the context of what happens inside it. -/
def context (s : OpenSpan) : Parent :=
  .enclosing s.depth s.parent.traceId? s.sampled

/-- The attributes the outcome adds. -/
def endAttributes (s : OpenSpan) (route : Option Text) (outcome : Option Outcome) :
    List Attribute :=
  match outcome with
  | some (.response response) => s.extractor.onEnd (some response.facts) none route
  | some (.failure error) => s.extractor.onEnd none (some error) route
  | none => s.extractor.onEnd none none route

/-- The status the outcome gives the span; a cancelled request gives none. -/
def status (outcome : Option Outcome) : Status :=
  match outcome with
  | some (.response response) => .ofOutcome (some response.status) none
  | some (.failure error) => .ofOutcome none (some error)
  | none => .unset

/-- The span as it is reported after the outcome. Its name changes if a route is held by then. -/
def report (s : OpenSpan) (holder : RouteHolder) (outcome : Option Outcome) : Span where
  name := if holder.route.isSome then holder.spanName else s.name
  status := status outcome
  attributes := (s.attributes ++ s.endAttributes holder.route outcome).take s.attributeLimit
  parent := s.parent.reported
  depth := s.depth

/-- What the span logs about the outcome. -/
def log (s : OpenSpan) (outcome : Option Outcome) : LogEvent :=
  let (message, more) := match outcome with
    | some (.response response) =>
      ("request handled", [("status".toList, LogValue.number response.status)])
    | some (.failure error) => ("request failed", [("error".toList, .shown error)])
    | none => ("request cancelled", [])
  ⟨.debug, "webtrace_http::layer".toList, message.toList,
    [("method".toList, .shown s.request.method), ("path".toList, .quoted s.request.uri.path)]
      ++ more⟩

/-- Closes the span, with what its holder holds. -/
def close (s : OpenSpan) (holder : RouteHolder) (outcome : Option Outcome) : Closed where
  log := s.log outcome
  span := if s.sampled then some (s.report holder outcome) else none

end OpenSpan

end ServerTelemetry
