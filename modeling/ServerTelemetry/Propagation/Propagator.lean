import ServerTelemetry.Http.Header
import ServerTelemetry.Propagation.Context

/-!
# Propagation formats

Each format names the headers it uses and reads a context out of them. A format that finds no
context of its own leaves the context alone, so of several formats the last one that succeeds
decides.

Ids are hexadecimal numbers. W3C trace context and B3 refuse capitals in them; Jaeger does not. B3
is read from the single `b3` header first and from the `X-B3-*` headers second, whichever of its
two forms is configured; the forms differ in the words they accept for the sampling decision. Jaeger
allows ids that identify nothing, but no headers with state of the trace that are malformed.
-/

namespace ServerTelemetry

open Text

/-- A propagation format. -/
inductive Propagator where
  | traceContext
  /-- W3C baggage, which carries no span context. -/
  | baggage
  | b3
  | b3Multi
  | jaeger
  deriving DecidableEq, Repr

namespace Propagator

/-- All formats, in the order they are listed to users. -/
def all : List Propagator :=
  [traceContext, baggage, b3, b3Multi, jaeger]

/-- The name of the format in configurations. -/
def name : Propagator → Text
  | traceContext => "tracecontext".toList
  | baggage => "baggage".toList
  | b3 => "b3".toList
  | b3Multi => "b3multi".toList
  | jaeger => "jaeger".toList

/-- The format with a given name. -/
def ofName? (name : Text) : Option Propagator :=
  all.find? fun p => p.name == name

/-- The headers the format uses. -/
def fields : Propagator → List Text
  | traceContext => ["traceparent".toList, "tracestate".toList]
  | baggage => ["baggage".toList]
  | b3 => ["b3".toList]
  | b3Multi => ["x-b3-traceid".toList, "x-b3-spanid".toList, "x-b3-sampled".toList,
      "x-b3-flags".toList]
  | jaeger => ["uber-trace-id".toList]

/-- A hexadecimal number without capitals. -/
def lowerHex? (bound : Nat) (s : Text) : Option Nat :=
  if s.any Char.isUpper then none else readNat 16 bound s

/-- The context, if it identifies a span. -/
def valid? (c : SpanContext) : Option SpanContext :=
  if c.isValid then some c else none

/-- A `traceparent` value: version, trace, span and flags. Version 0 has exactly these four parts
and flags of at most 2; the sampling decision is the lowest flag. -/
def readTraceParent (value : Text) : Option SpanContext :=
  match piecesTerminated '-' (trim value) with
  | version :: traceId :: spanId :: flags :: more => do
    let version ← readNat 16 255 version
    if version = 0 ∧ more ≠ [] then none
    let traceId ← lowerHex? SpanContext.traceIdBound traceId
    let spanId ← lowerHex? SpanContext.spanIdBound spanId
    let flags ← readNat 16 256 flags
    if version = 0 ∧ 2 < flags then none
    valid? ⟨traceId, spanId, flags % 2 == 1⟩
  | _ => none

/-- A B3 trace id: 16 or 32 digits. -/
def b3TraceId? (s : Text) : Option Nat :=
  if s.length = 16 ∨ s.length = 32 then lowerHex? SpanContext.traceIdBound s else none

/-- A B3 span id: 16 digits. -/
def b3SpanId? (s : Text) : Option Nat :=
  if s.length = 16 then lowerHex? SpanContext.spanIdBound s else none

/-- The words for the sampling decision: `true` is one only in the form with many headers, `d` only
in the form with one, where it asks for debugging and not for sampling. -/
def b3Sampled? (multi : Bool) (s : Text) : Option Bool :=
  if s = "0".toList ∨ s = "false".toList then some false
  else if s = "1".toList then some true
  else if s = "true".toList ∧ multi then some true
  else if s = "d".toList ∧ ! multi then some false
  else none

/-- A `b3` value: trace, span, and optionally the sampling decision and the parent span. -/
def readB3 (multi : Bool) (value : Text) : Option SpanContext :=
  match piecesTerminated '-' value with
  | [traceId, spanId] => do
    valid? ⟨← b3TraceId? traceId, ← b3SpanId? spanId, false⟩
  | [traceId, spanId, sampled] => do
    valid? ⟨← b3TraceId? traceId, ← b3SpanId? spanId, ← b3Sampled? multi sampled⟩
  | [traceId, spanId, sampled, parent] => do
    let context := ⟨← b3TraceId? traceId, ← b3SpanId? spanId, ← b3Sampled? multi sampled⟩
    let _ ← b3SpanId? parent
    valid? context
  | _ => none

/-- The debug flag, which settles the sampling decision if it is one. -/
def b3Debug? (s : Text) : Option Bool :=
  if s = "1".toList then some true
  else if s = "0".toList then some false
  else none

/-- The `X-B3-*` headers; a debug flag comes before the sampling decision. -/
def readB3Headers (multi : Bool) (headers : Http.Headers) : Option SpanContext := do
  let traceId ← b3TraceId? (← headers.first? "x-b3-traceid".toList)
  let spanId ← b3SpanId? (← headers.first? "x-b3-spanid".toList)
  match (headers.first? "x-b3-flags".toList).bind b3Debug? with
  | some debug => valid? ⟨traceId, spanId, debug⟩
  | none =>
    match headers.first? "x-b3-sampled".toList with
    | some sampled => valid? ⟨traceId, spanId, ← b3Sampled? multi sampled⟩
    | none => valid? ⟨traceId, spanId, false⟩

/-- Either form of B3, the single header first. -/
def extractB3 (multi : Bool) (headers : Http.Headers) : Option SpanContext :=
  ((headers.first? "b3".toList).bind (readB3 multi)).or (readB3Headers multi headers)

/-- The text with the escaped colons of a URL put back. -/
def unescapeColons : Text → Text
  | '%' :: '3' :: 'A' :: s => ':' :: unescapeColons s
  | c :: s => c :: unescapeColons s
  | [] => []

/-- An `uber-trace-id` value: trace, span, parent and flags. Ids may leave out leading zeros, and
are not checked to be other than zero. -/
def readUberTraceId (value : Text) : Option SpanContext :=
  let value := if value.contains ':' then value else unescapeColons value
  match piecesTerminated ':' value with
  | [traceId, spanId, _, flags] => do
    if 32 < traceId.length ∨ 16 < spanId.length ∨ 2 < flags.length then none
    let traceId ← readNat 16 SpanContext.traceIdBound traceId
    let spanId ← readNat 16 SpanContext.spanIdBound (zeroPadded 16 spanId)
    let flags ← readNat 10 256 flags
    return ⟨traceId, spanId, flags % 2 == 1⟩
  | _ => none

/-- What the names of headers with state of the trace begin with. -/
def uberStatePrefix : Text :=
  "uberctx-".toList

/-- The names that state of a trace may have. -/
def isStateName (name : Text) : Bool :=
  name.length ≤ 256 && name.all fun c => c.isLower || c.isDigit || "_-*".toList.contains c

/-- The values that state of a trace may have. -/
def isStateValue (value : Text) : Bool :=
  value.length ≤ 256 && ! value.contains ',' && ! value.contains '='

/-- Whether the headers with state of the trace are well-formed, as far as they are readable. -/
def hasUberState (headers : Http.Headers) : Bool :=
  (headers.map (·.name)).all fun name =>
    ! uberStatePrefix.isPrefixOf name
      || (headers.first? name).all fun value => isStateName name && isStateValue value

/-- The context the format finds in the headers of a request. -/
def extract? (p : Propagator) (headers : Http.Headers) : Option SpanContext :=
  match p with
  | traceContext => (headers.first? "traceparent".toList).bind readTraceParent
  | baggage => none
  | b3 => extractB3 false headers
  | b3Multi => extractB3 true headers
  | jaeger =>
    ((headers.first? "uber-trace-id".toList).bind readUberTraceId).filter fun _ =>
      hasUberState headers

/-- The context several formats find together: the last one that finds any decides. -/
def extractAll? (ps : List Propagator) (headers : Http.Headers) : Option SpanContext :=
  ps.foldl (fun found p => (p.extract? headers).or found) none

end Propagator

end ServerTelemetry
