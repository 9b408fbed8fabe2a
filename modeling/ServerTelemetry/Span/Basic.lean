import ServerTelemetry.Attribute
import ServerTelemetry.Propagation.Context
import ServerTelemetry.Status

/-!
# Spans

A server span as it is reported: its name, status, attributes and parent. A span belongs to the
trace of its parent; the root of a trace begins one with an id of its own. A request may have several
spans, one inside another, which are told apart by how many are around each. A request may carry an
identity whose ids are zero: it decides about the trace like any other, but without a span id it is
nobody's parent, and in a trace without an id there are no spans to be in.
-/

namespace ServerTelemetry

/-- What a span belongs to. -/
inductive Parent where
  /-- Nothing: the span is the root of its trace. -/
  | root
  /-- The span of a caller in another process. -/
  | remote (context : SpanContext)
  /-- The span of the same request that has this many around it, with the id of its trace if the trace
  came from a caller. -/
  | enclosing (depth : Nat) (traceId : Option Nat) (sampled : Bool)
  deriving DecidableEq, Repr

namespace Parent

/-- The id of the trace, if the trace came from a caller. -/
def traceId? : Parent → Option Nat
  | root => none
  | remote context => some context.traceId
  | enclosing _ traceId _ => traceId

/-- Whether what happens in this context happens in a span: outside of one there is none, and in a
trace without an id neither. -/
def inSpan : Parent → Bool
  | root => false
  | remote context => context.isValid
  | enclosing _ traceId _ => traceId != some 0

/-- Whether the parent is recorded, if there is one. -/
def sampled? : Parent → Option Bool
  | root => none
  | remote context => some context.sampled
  | enclosing _ _ sampled => some sampled

/-- The parent of a span under `current`, in a request that carries the given context. -/
def under (current : Parent) (carried : Option SpanContext) : Parent :=
  match carried with
  | some context => remote context
  | none => current

@[simp] theorem under_none (current : Parent) : current.under none = current := rfl

@[simp] theorem under_some (current : Parent) (context : SpanContext) :
    current.under (some context) = remote context := rfl

/-- The parent as it is reported: what has no span id is no parent. -/
def reported : Parent → Parent
  | remote context => if context.spanId = 0 then root else remote context
  | other => other

end Parent

/-- The instrumentation that spans are reported under, with its version. -/
structure Scope where
  name : Text
  version : Text
  deriving DecidableEq, Repr

/-- A reported span. -/
structure Span where
  name : Text
  status : Status
  /-- The attributes, in the order they were set. -/
  attributes : List Attribute
  parent : Parent
  /-- How many spans of the same request are around it. -/
  depth : Nat
  deriving DecidableEq, Repr

namespace Span

/-- The instrumentation that reports server spans. -/
def scopeName : Text :=
  "webtrace-http".toList

/-- The version of the instrumentation. -/
def scopeVersion : Text :=
  "0.1.0".toList

/-- The scope of server spans. -/
def scope : Scope :=
  ⟨scopeName, scopeVersion⟩

end Span

end ServerTelemetry
