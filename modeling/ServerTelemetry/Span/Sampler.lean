import ServerTelemetry.Number.Decimal
import ServerTelemetry.Span.Basic

/-!
# Which spans are recorded

A sampler decides for each span whether it is recorded. It may follow the parent's decision and
decide about roots alone, and it may record a share of all traces, chosen by their ids. What is
recorded keeps a limited number of attributes. The environment may change both; what it says in
other words than these leaves them as they are.
-/

namespace ServerTelemetry

open Text

/-- The rule by which spans are recorded. -/
inductive Sampler where
  | always
  | never
  /-- The traces with an id below a bound. -/
  | share (bound : Nat)
  /-- Spans whose parent is recorded, and roots by a rule of their own. -/
  | parentBased (root : Sampler)
  deriving DecidableEq, Repr

namespace Sampler

/-- The bound of a share that is all. -/
def wholeShare : Nat := 9223372036854775808

/-- The place of a trace id among all: what is left of its lower half without the last bit. -/
def rank (traceId : Nat) : Nat :=
  traceId % UInt64.size / 2

/-- Whether a span with this parent is recorded. The id of a trace that begins here is not known; it
is taken to lie in the middle. -/
def samples (s : Sampler) (parent : Parent) : Bool :=
  match s with
  | always => true
  | never => false
  | share bound => (parent.traceId?.elim (wholeShare / 2 - 1) rank) < bound
  | parentBased root => parent.sampled?.getD (root.samples parent)

/-- The sampler for a share of all traces. -/
def ofShare : Decimal → Sampler
  | .finite false magnitude =>
    let (num, den) := Binary64.scaled 2 (magnitude.mantissa * wholeShare) 1 magnitude.exponent
    if wholeShare * den ≤ num then always else share (num / den)
  | .infinite false => always
  | _ => never

/-- The standard sampler. -/
def standard : Sampler :=
  parentBased always

/-- The variable with the name of the sampler. -/
def nameVariable : Text :=
  "OTEL_TRACES_SAMPLER".toList

/-- The variable with the share of a sampler that has one. -/
def shareVariable : Text :=
  "OTEL_TRACES_SAMPLER_ARG".toList

/-- The sampler with a name, with the text of its share. -/
def ofName (name : Text) (shareText : Option Text) : Sampler :=
  let byShare := ((shareText.bind Decimal.read?).map ofShare).getD always
  let names := [("always_on", always), ("always_off", never), ("traceidratio", byShare),
    ("parentbased_always_on", parentBased always), ("parentbased_always_off", parentBased never),
    ("parentbased_traceidratio", parentBased byShare)]
  ((names.find? fun (known, _) => known.toList == name).map Prod.snd).getD standard

end Sampler

/-- What is recorded. -/
structure Recording where
  sampler : Sampler := .standard
  /-- The most attributes a span keeps; later ones are dropped. -/
  attributeLimit : Nat := 128
  deriving DecidableEq, Repr

namespace Recording

/-- The variable with the most attributes a span keeps. -/
def limitVariable : Text :=
  "OTEL_SPAN_ATTRIBUTE_COUNT_LIMIT".toList

/-- What is recorded in a process with some variables. -/
def ofVariables (vars : Text → Option Text) : Recording where
  sampler := ((vars Sampler.nameVariable).map fun name =>
    .ofName name (vars Sampler.shareVariable)).getD .standard
  attributeLimit := ((vars limitVariable).bind (readNat 10 UInt32.size)).getD 128

end Recording

end ServerTelemetry
