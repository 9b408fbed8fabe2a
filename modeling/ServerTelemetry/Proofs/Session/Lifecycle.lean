import ServerTelemetry.Proofs.Session.InFlight

/-!
# Every call ends once

Under a single layer every call has one span, which is open from the step that makes the call up to
the first step that ends it, and that step logs the one event of the call (`span_ends_once`). A step
is eventful only if it ends a call (`uneventful_of_endOf?`). All of this is what is so of calls in flight
under any layers, said about the one span there is.
-/

namespace ServerTelemetry

/-- The store with the holder that a request came with. -/
def Shared.brought (w : Shared) (route : Option RouteHolder) : Shared :=
  route.elim w w.keep

theorem Observation.closing_close (span : OpenSpan) (holder : RouteHolder)
    (outcome : Option Outcome) (report : Report) :
    Observation.closing [span.close holder outcome] report =
      ⟨if span.sampled then [span.report holder outcome] else [], [span.log outcome], report⟩ := by
  cases h : span.sampled <;> simp only [closing, OpenSpan.close, h] <;> rfl

/-! ## A service with a single layer -/

/-- A service with a single layer, which is enabled. -/
structure SingleLayer where
  /-- The formats callers may send their context in. -/
  propagators : List Propagator
  /-- What the server notes about the connection of every request. -/
  connection : Option Http.Connection
  extractor : Extractor
  /-- The most attributes a span keeps. -/
  attributeLimit : Nat
  deriving DecidableEq, Repr

namespace SingleLayer

/-- The service. -/
def service (l : SingleLayer) : Service where
  propagators := l.propagators
  connection := l.connection
  layers := [⟨l.extractor, true⟩]
  recording := { attributeLimit := l.attributeLimit }

/-- The context that a request carries. -/
def carried (l : SingleLayer) (r : Http.Request) : Option SpanContext :=
  Propagator.extractAll? l.propagators r.headers

/-- The holder that a request is given. -/
def holder (l : SingleLayer) (r : Http.Request) : RouteHolder :=
  OpenSpan.freshHolder l.extractor (l.service.inject r)

/-- The span of a request whose holder is kept at this place. -/
def span (l : SingleLayer) (r : Http.Request) (place : Nat) : OpenSpan :=
  .start l.service.recording l.extractor (l.service.inject r) (Parent.root.under (l.carried r)) 0
    place

/-- A span is recorded unless its parent is there and is not. -/
theorem span_sampled (l : SingleLayer) (r : Http.Request) (place : Nat) :
    (l.span r place).sampled = (l.carried r).all (·.sampled) := by
  change (Parent.root.under (l.carried r)).sampled?.getD true = _
  cases l.carried r <;> rfl

theorem call_eq (l : SingleLayer) (r : Http.Request) {w : Shared} (hatt : w.attached = []) :
    l.service.call r w =
      let span := l.span r (w.brought r.route).next
      (⟨span.request, some span.place, span.context.inSpan, [some span]⟩,
        (w.brought r.route).keep (l.holder r)) := by
  have henter : ∀ (place : Option Nat) (w : Shared), w.attached = [] →
      l.service.enter l.service.layers (l.service.inject r) place w =
        let span := l.span r w.next
        (⟨span.request, some span.place, span.context.inSpan, [some span]⟩,
          w.keep (l.holder r)) := by
    intro place w hatt
    have hspan : l.service.opened ⟨l.extractor, true⟩ (l.service.inject r) w = l.span r w.next := by
      rw [Service.opened, Service.inject_headers, Shared.current, Shared.depth, hatt]
      rfl
    have hlayers : l.service.layers = [⟨l.extractor, true⟩] := rfl
    rw [hlayers, Service.enter_enabled _ rfl, hspan]
    rfl
  cases h : r.route with
  | none =>
    rw [Service.call_none _ ((l.service.inject_route r).trans h)]
    exact henter none w hatt
  | some holder =>
    rw [Service.call_some _ ((l.service.inject_route r).trans h)]
    exact henter (some w.next) (w.keep holder) hatt

end SingleLayer

namespace Session

/-! ## Calls under a single layer -/

/-- The span of the request with which step `i` of a session calls the service. -/
def spanAt (l : SingleLayer) (steps : List Step) (i : Nat) (r : Http.Request) : OpenSpan :=
  l.span r ((State.after l.service {} (steps.take i)).shared.brought r.route).next

theorem callAt_single (l : SingleLayer) (steps : List Step) (i : Nat) (r : Http.Request) :
    (callAt l.service steps i r).1 =
        (let span := spanAt l steps i r
        ⟨span.request, some span.place, span.context.inSpan, [some span]⟩) ∧
      (callAt l.service steps i r).2.holder? (spanAt l steps i r).place = some (l.holder r) := by
  have hatt := (State.private_after l.service (steps.take i)).attached
  rw [callAt, l.call_eq r hatt]
  exact ⟨rfl, List.getElem?_concat_length⟩

namespace State

/-- **A call that no step has ended is under way**, with the outcome and the route that the steps
since then have given it. -/
theorem underWay_of_endOf? (l : SingleLayer) {steps : List Step} {i : Nat} {n : Text}
    {r : Http.Request} (hi : steps[i]? = some (.call n r)) (hend : endOf? steps i = none) :
    UnderWay (State.after l.service {} steps) n (spanAt l steps i r)
      (offeredBy n (l.holder r) (steps.drop (i + 1))) (settledBy n none (steps.drop (i + 1))) := by
  obtain ⟨hcalled, hheld⟩ := callAt_single l steps i r
  obtain ⟨hflight, hholder⟩ := inFlight_of_endOf? l.service hi hend
  rw [hcalled] at hflight hholder
  refine ⟨hflight.apart, hflight.call, ?_⟩
  rw [hholder _ List.mem_cons_self, hheld, Option.map_some, if_pos rfl]

/-- **The step that ends a call** is observed as the end of its span, whose holder holds what was
offered to the call. -/
theorem observed_of_endOf? (l : SingleLayer) {steps : List Step} {i j : Nat} {n : Text}
    {r : Http.Request} {final : Option Outcome} (hi : steps[i]? = some (.call n r))
    (hend : endOf? steps i = some (j, final)) :
    let holder := offeredBy n (l.holder r) ((steps.take j).drop (i + 1))
    (∃ outcome, UnderWay (State.after l.service {} (steps.take j)) n (spanAt l steps i r) holder
      outcome) ∧
    (∃ report, (run l.service {} steps)[j]? =
        some (.closing [(spanAt l steps i r).close holder final] report) ∧
      report.yielded = final) ∧
    ¬ IsOpen (State.after l.service {} (steps.take (j + 1))) (spanAt l steps i r) := by
  intro holder
  obtain ⟨hcalled, hheld⟩ := callAt_single l steps i r
  obtain ⟨⟨outcome, hflight⟩, hholder, ⟨report, hobs, hyield⟩, hclosed⟩ :=
    ended_of_endOf? l.service hi hend
  rw [hcalled] at hflight hholder hobs hclosed
  have hplace : (State.after l.service {} (steps.take j)).shared.holder? (spanAt l steps i r).place =
      some holder := by
    rw [hholder _ List.mem_cons_self, hheld, Option.map_some, if_pos rfl]
  have horder : Future.closingOrder [some (spanAt l steps i r)] final = [spanAt l steps i r] := by
    cases final <;> rfl
  rw [horder, List.map_cons, List.map_nil, Shared.holderAt, hplace] at hobs
  exact ⟨⟨outcome, hflight.apart, hflight.call, hplace⟩, ⟨report, hobs, hyield⟩,
    hclosed _ List.mem_cons_self⟩

/-- **The span of a call is open from the call to its end**, and in no other state of the session. -/
theorem isOpen_iff (l : SingleLayer) {steps : List Step} {i m : Nat} {n : Text}
    {r : Http.Request} (hi : steps[i]? = some (.call n r)) (hm : m ≤ steps.length) :
    IsOpen (State.after l.service {} (steps.take m)) (spanAt l steps i r) ↔
      i < m ∧ ∀ e ∈ endOf? steps i, m ≤ e.1 := by
  refine isOpen_span_iff l.service hi hm ?_
  rw [(callAt_single l steps i r).1]
  exact List.mem_cons_self

end State

/-- What is logged of a call that ends like this. -/
def endMessage : Option Outcome → String
  | some (.response _) => "request handled"
  | some (.failure _) => "request failed"
  | none => "request cancelled"

/-- The event of a span that ends tells how its call ended, and names its request. -/
theorem log_tells (span : OpenSpan) (final : Option Outcome) :
    (span.log final).level = .debug ∧ (span.log final).message = (endMessage final).toList ∧
      ("method".toList, .shown span.request.method) ∈ (span.log final).fields ∧
      ("path".toList, .quoted span.request.uri.path) ∈ (span.log final).fields := by
  unfold OpenSpan.log
  refine ⟨rfl, ?_, List.mem_cons_self, List.mem_cons_of_mem _ List.mem_cons_self⟩
  cases final with
  | none => rfl
  | some outcome => cases outcome <;> rfl

/-- **Every call ends once.** Under a single layer the span of a call is open in exactly the states
from the call up to the first step that polls its future with an outcome to yield, drops the future or
gives its name to another call. That step yields the outcome if it is a poll, and it logs one event at
the level for developers, which tells the outcome and names the request. It reports the span, once, if
and only if the request carries no context or a sampled one. A step that ends no call reports no span,
logs no event and yields no outcome, and no step ends two calls. -/
theorem span_ends_once (l : SingleLayer) (steps : List Step) :
    (∀ i name request, steps[i]? = some (.call name request) →
      (∀ m ≤ steps.length,
        ((State.after l.service {} (steps.take m)).IsOpen (spanAt l steps i request) ↔
          i < m ∧ ∀ e ∈ endOf? steps i, m ≤ e.1)) ∧
      ∀ j final, endOf? steps i = some (j, final) →
        ∃ reported event report,
          (run l.service [] steps)[j]? = some ⟨reported, [event], report⟩ ∧
          report.yielded = final ∧
          (event.level = .debug ∧ event.message = (endMessage final).toList ∧
            ("method".toList, .shown request.method) ∈ event.fields ∧
            ("path".toList, .quoted request.uri.path) ∈ event.fields) ∧
          reported =
            if (l.carried request).all (·.sampled) then
              [(spanAt l steps i request).report
                (offeredBy name (l.holder request) ((steps.take j).drop (i + 1))) final]
            else []) ∧
    (∀ (j : Nat) observation, (run l.service [] steps)[j]? = some observation →
      (∀ i final, endOf? steps i ≠ some (j, final)) → observation.Uneventful) ∧
    ∀ i i' j final final', endOf? steps i = some (j, final) → endOf? steps i' = some (j, final') →
      i = i' := by
  refine ⟨fun i name request hi => ⟨fun m hm => State.isOpen_iff l hi hm, fun j final hend => ?_⟩,
    fun j observation hj hnone => ?_, fun _ _ _ _ _ h h' => endOf?_inj h h'⟩
  · obtain ⟨-, ⟨report, hobs, hyield⟩, -⟩ := State.observed_of_endOf? l hi hend
    obtain ⟨hmethod, huri⟩ := l.service.inject_target request
    rw [Observation.closing_close, spanAt, l.span_sampled] at hobs
    have htells := log_tells (spanAt l steps i request) final
    refine ⟨_, _, report, hobs, hyield, ?_, rfl⟩
    rw [← hmethod, ← huri]
    exact htells
  · exact State.uneventful_of_endOf? l.service hj hnone

/-- A request with one header. -/
def requestWith (name value : String) : Http.Request where
  method := "GET".toList
  uri := .origin "/".toList none
  version := .v11
  headers := [⟨name.toList, value.toList.map fun c => UInt8.ofNat c.toNat⟩]
  body := []
  connection := none
  route := none

/-- A span that has a parent is reported as well, if the parent is sampled. -/
theorem not_reported_iff_parentless :
    ¬ ∀ (l : SingleLayer) (steps : List Step) (i j : Nat) (name : Text) (request : Http.Request)
        (final : Option Outcome) (o : Observation),
      steps[i]? = some (.call name request) → endOf? steps i = some (j, final) →
      (run l.service [] steps)[j]? = some o →
      (o.spans.length = 1 ↔ l.carried request = none) := by
  intro h
  let l : SingleLayer := ⟨[.traceContext], none, .standard, 128⟩
  let request :=
    requestWith "traceparent" "00-4bf92f3577b34da6a3ce929d0e0e4736-00f067aa0ba902b7-01"
  let outcome := Outcome.response ⟨200, [], []⟩
  let steps : List Step :=
    [.call "a".toList request, .settle "a".toList outcome, .poll "a".toList]
  have hreported : ∃ o, (run l.service [] steps)[2]? = some o ∧ o.spans.length = 1 :=
    ⟨_, rfl, rfl⟩
  obtain ⟨o, ho, hlength⟩ := hreported
  have hcarried : l.carried request ≠ none := by decide
  exact hcarried ((h l steps 0 2 "a".toList request (some outcome) o rfl rfl ho).1 hlength)

end Session

end ServerTelemetry
