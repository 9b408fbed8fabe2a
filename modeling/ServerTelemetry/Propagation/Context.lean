import ServerTelemetry.Text.Number

/-!
# The context a request carries

A caller that traces sends the identity of its own span along: a trace id, a span id and whether the
trace is sampled. An id of zero identifies nothing.
-/

namespace ServerTelemetry

/-- The identity of a span in another process. -/
structure SpanContext where
  /-- The trace, a number of 128 bits. -/
  traceId : Nat
  /-- The span, a number of 64 bits. -/
  spanId : Nat
  /-- Whether the trace is recorded. -/
  sampled : Bool
  deriving DecidableEq, Repr

namespace SpanContext

/-- Trace ids stay below this number, as they have 128 bits. -/
def traceIdBound : Nat :=
  UInt64.size * UInt64.size

/-- Span ids stay below this number, as they have 64 bits. -/
def spanIdBound : Nat :=
  UInt64.size

/-- Whether the context identifies a span. -/
def isValid (c : SpanContext) : Bool :=
  c.traceId != 0 && c.spanId != 0

/-- The trace id as 32 hexadecimal digits. -/
def traceIdText (c : SpanContext) : Text :=
  Text.hexadecimal 32 c.traceId

/-- The span id as 16 hexadecimal digits. -/
def spanIdText (c : SpanContext) : Text :=
  Text.hexadecimal 16 c.spanId

end SpanContext

end ServerTelemetry
