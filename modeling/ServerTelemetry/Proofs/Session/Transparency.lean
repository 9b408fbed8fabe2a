import ServerTelemetry.Proofs.Session.Private

/-!
# Telemetry is transparent

The traffic of a session is what callers and handlers exchange: the answers on readiness, the requests
handlers receive and the outcomes futures yield. It is the same under any layers
(`traffic_eq_of_connection_eq`), since a layer adds to a request nothing but a route holder and a
future yields when its handler does. A service whose layers are all off opens no spans, so it shows
nothing beside the traffic, and hands requests on as they came (`Service.call_off`).
-/

namespace ServerTelemetry

/-! ## Traffic -/

/-- The request without the route holder telemetry puts on it. -/
def Http.Request.withoutHolder (r : Http.Request) : Http.Request :=
  { r with route := none }

/-- What of a report is traffic. Offers of routes are made to telemetry, so they are not. -/
def Report.traffic : Report → Report
  | .ready state => .ready state
  | .received request _ _ => .received request.withoutHolder Option.none false
  | .offered _ => .none
  | .polled outcome _ => .polled outcome false
  | .finished => .finished
  | .none => .none

/-- What of a call decides on the traffic. -/
def Call.traffic (c : Call) : Http.Request × Option Outcome × Bool :=
  (c.received.withoutHolder, c.outcome, c.live)

/-- The service with all its layers switched off. -/
def Service.off (s : Service) : Service :=
  { s with layers := s.layers.map fun layer => { layer with enabled := false } }

/-- Whether a report says that the handler ran in a span. -/
def Report.inSpan : Report → Bool
  | .received _ _ inSpan | .polled _ inSpan => inSpan
  | _ => false

/-- Whether an observation shows nothing of telemetry: no span, no event, no handler in a span. -/
def Observation.silent (o : Observation) : Bool :=
  o.spans.isEmpty && o.logs.isEmpty && ! o.report.inSpan

namespace Service

/-- On its way to the handler a request changes in its route holder alone. -/
theorem enter_received (s : Service) (layers : List Layer) (request : Http.Request)
    (place : Option Nat) (w : Shared) :
    (s.enter layers request place w).1.received.withoutHolder = request.withoutHolder := by
  induction layers generalizing request place w with
  | nil => rfl
  | cons layer layers ih =>
    cases hen : layer.enabled with
    | false =>
      rw [enter_disabled s hen]
      exact ih request place w
    | true =>
      rw [enter_enabled s hen]
      exact ih (s.opened layer request w).request _ _

/-- What a handler receives depends on the layers in its route holder alone. -/
theorem call_received (s : Service) (request : Http.Request) (w : Shared) :
    (s.call request w).1.received.withoutHolder = (s.inject request).withoutHolder := by
  rw [call_eq_enter, enter_received]

end Service

namespace Session

namespace State

/-! ## The same traffic under any layers -/

/-- Two sessions have the same calls, as far as traffic is concerned. -/
def SameTraffic (t v : State) : Prop :=
  ∀ n, (t.calls.find? n).map Call.traffic = (v.calls.find? n).map Call.traffic

namespace SameTraffic

variable {t v : State}

theorem find?_eq_none (h : SameTraffic t v) {n : Text} (ht : t.calls.find? n = none) :
    v.calls.find? n = none := by
  have hn := h n
  rw [ht, Option.map_none] at hn
  exact Option.map_eq_none_iff.1 hn.symm

theorem find?_eq_some (h : SameTraffic t v) {n : Text} {c : Call}
    (ht : t.calls.find? n = some c) :
    ∃ d, v.calls.find? n = some d ∧ d.traffic = c.traffic := by
  have hn := h n
  rw [ht, Option.map_some] at hn
  exact Option.map_eq_some_iff.1 hn.symm

/-- Putting calls of the same traffic. -/
theorem put (h : SameTraffic t v) (w u : Shared) (n : Text) {c d : Call}
    (hcd : d.traffic = c.traffic) :
    SameTraffic ({ t with shared := w }.put n c) ({ v with shared := u }.put n d) := by
  intro m
  by_cases hm : m = n
  · subst hm
    simp only [State.put, find?_put_self, Option.map_some, hcd]
  · simp only [State.put, find?_put_of_ne _ _ hm]
    exact h m

theorem call (h : SameTraffic t v) {on off : Service} (hc : on.connection = off.connection)
    (n : Text) (r : Http.Request) :
    (t.call on n r).2.report.traffic = (v.call off n r).2.report.traffic ∧
      SameTraffic (t.call on n r).1 (v.call off n r).1 := by
  have hinject : on.inject r = off.inject r := by
    simp only [Service.inject, hc]
  have hreceived : (off.call r v.shared).1.received.withoutHolder =
      (on.call r t.shared).1.received.withoutHolder := by
    rw [Service.call_received, Service.call_received, hinject]
  rw [call_eq, call_eq]
  refine ⟨?_, h.put _ _ n ?_⟩
  · simp only [Observation.closing, Report.traffic, hreceived]
  · simp only [Call.traffic, Call.start, hreceived]

theorem poll (h : SameTraffic t v) (n : Text) {c d : Call} (hcd : d.traffic = c.traffic) :
    (t.poll n c).2.report.traffic = (v.poll n d).2.report.traffic ∧
      SameTraffic (t.poll n c).1 (v.poll n d).1 := by
  simp only [Call.traffic, Prod.mk.injEq] at hcd
  obtain ⟨hreceived, hout, hlive⟩ := hcd
  cases hl : c.live with
  | false =>
    rw [poll_dead t n hl, poll_dead v n (hlive.trans hl)]
    exact ⟨rfl, h⟩
  | true =>
    cases ho : c.outcome with
    | none =>
      rw [poll_pending t n hl ho, poll_pending v n (hlive.trans hl) (hout.trans ho)]
      refine ⟨rfl, h.put t.shared v.shared n ?_⟩
      simp only [Call.traffic, hreceived, hout, hlive]
    | some o =>
      rw [poll_ready t n hl ho, poll_ready v n (hlive.trans hl) (hout.trans ho)]
      refine ⟨rfl, h.put t.shared v.shared n ?_⟩
      simp only [Call.traffic, Call.ended, hreceived, hout]

/-- **Every step has the same traffic** and keeps it the same for what follows. -/
theorem step (h : SameTraffic t v) {on off : Service} (hc : on.connection = off.connection)
    (s : Step) :
    (t.step on s).2.report.traffic = (v.step off s).2.report.traffic ∧
      SameTraffic (t.step on s).1 (v.step off s).1 := by
  cases s with
  | ready state => exact ⟨rfl, h⟩
  | call n r => exact h.call hc n r
  | offer n source route =>
    cases ht : t.calls.find? n with
    | none =>
      simp only [State.step, ht, h.find?_eq_none ht]
      exact ⟨trivial, h⟩
    | some c =>
      obtain ⟨d, hv, -⟩ := h.find?_eq_some ht
      simp only [State.step, ht, hv]
      rw [offer_observed, offer_observed]
      refine ⟨rfl, fun m => ?_⟩
      rw [offer_calls, offer_calls]
      exact h m
  | settle n o =>
    cases ht : t.calls.find? n with
    | none =>
      simp only [State.step, ht, h.find?_eq_none ht]
      exact ⟨trivial, h⟩
    | some c =>
      obtain ⟨d, hv, hd⟩ := h.find?_eq_some ht
      simp only [Call.traffic, Prod.mk.injEq] at hd
      simp only [State.step, ht, hv]
      refine ⟨trivial, h.put t.shared v.shared n ?_⟩
      simp only [Call.traffic, hd.1, hd.2.2]
  | poll n =>
    cases ht : t.calls.find? n with
    | none =>
      simp only [State.step, ht, h.find?_eq_none ht]
      exact ⟨trivial, h⟩
    | some c =>
      obtain ⟨d, hv, hd⟩ := h.find?_eq_some ht
      simp only [State.step, ht, hv]
      exact h.poll n hd
  | drop n =>
    cases ht : t.calls.find? n with
    | none =>
      simp only [State.step, ht, h.find?_eq_none ht]
      exact ⟨trivial, h⟩
    | some c =>
      obtain ⟨d, hv, hd⟩ := h.find?_eq_some ht
      simp only [Call.traffic, Prod.mk.injEq] at hd
      simp only [State.step, ht, hv, drop_eq]
      refine ⟨rfl, h.put t.shared v.shared n ?_⟩
      simp only [Call.traffic, Call.ended, hd.1, hd.2.1]

end SameTraffic

/-- The traffic of a session depends on the service in the connection it notes alone. -/
theorem traffic_eq_of_connection_eq (on off : Service) (hc : on.connection = off.connection)
    (steps : List Step) {t v : State} (h : SameTraffic t v) :
    (t.run on steps).map (·.report.traffic) = (v.run off steps).map (·.report.traffic) := by
  induction steps generalizing t v with
  | nil => rfl
  | cons s steps ih =>
    obtain ⟨hreport, hnext⟩ := h.step hc s
    exact congrArg₂ List.cons hreport (ih hnext)

/-! ## Nothing but traffic when the layers are off -/

theorem context_of_spans_nil {f : Future} (h : f.spans = []) (current : Parent) :
    f.context current = current := by
  induction f with
  | nil => rfl
  | cons span f ih =>
    cases span with
    | none => exact ih h
    | some span => cases h

/-- Layers that are off hand a request on as it is. -/
theorem enter_off (s : Service) (layers : List Layer) (request : Http.Request) (place : Option Nat)
    (w : Shared) :
    s.enter (layers.map fun layer => { layer with enabled := false }) request place w =
      (⟨request, place, w.current.inSpan, layers.map fun _ => none⟩, w) := by
  induction layers with
  | nil => rfl
  | cons layer layers ih =>
    rw [List.map_cons, Service.enter_disabled s rfl, ih]
    rfl

/-- A service that is off hands a request on as it came, with its connection noted and the holder it
came with. -/
theorem call_off (s : Service) (r : Http.Request) {w : Shared} (hatt : w.attached = []) :
    let called := (s.off.call r w).1
    called.received = s.inject r ∧ called.place.bind (s.off.call r w).2.holder? = r.route ∧
      called.inSpan = false ∧ called.future.spans = [] := by
  have hspans : ∀ layers : List Layer, Future.spans (layers.map fun _ => none) = [] := by
    intro layers
    induction layers with
    | nil => rfl
    | cons layer layers ih => exact ih
  have hcurrent : w.current.inSpan = false := by
    rw [Shared.current, hatt]
    rfl
  cases h : r.route with
  | none =>
    rw [Service.call_none s.off ((s.off.inject_route r).trans h), Service.off, enter_off]
    exact ⟨rfl, rfl, hcurrent, hspans s.layers⟩
  | some holder =>
    rw [Service.call_some s.off ((s.off.inject_route r).trans h), Service.off, enter_off]
    refine ⟨rfl, ?_, hcurrent, hspans s.layers⟩
    exact List.getElem?_concat_length

/-- No call has a span open. -/
def NoSpans (t : State) : Prop :=
  ∀ n c, t.calls.find? n = some c → c.future.spans = []

theorem NoSpans.put {t : State} (h : NoSpans t) (w : Shared) (n : Text) {c : Call}
    (hc : c.future.spans = []) : NoSpans ({ t with shared := w }.put n c) := by
  intro m d hd
  by_cases hm : m = n
  · subst hm
    rw [State.put, find?_put_self] at hd
    obtain rfl := Option.some.inj hd
    exact hc
  · rw [State.put, find?_put_of_ne _ _ hm] at hd
    exact h m d hd

/-- **A step of a service that is off is silent**, and no span is open afterwards either. -/
theorem NoSpans.step {t : State} (h : NoSpans t) (hatt : t.shared.attached = []) (s : Service)
    (step : Step) : (t.step s.off step).2.silent = true ∧ NoSpans (t.step s.off step).1 := by
  have hinSpan : ∀ {n c}, t.calls.find? n = some c →
      (c.future.context t.shared.current).inSpan = false := by
    intro n c hc
    rw [context_of_spans_nil (h n c hc), Shared.current, hatt]
    rfl
  cases step with
  | ready state => exact ⟨rfl, h⟩
  | call n r =>
    obtain ⟨-, -, hin, hspans⟩ := call_off s r hatt
    have hold : ((t.calls.find? n).toList.flatMap fun old =>
        old.future.spans.map fun sp => sp.close ((s.off.call r t.shared).2.holderAt sp.place) none) =
          [] := by
      cases hc : t.calls.find? n with
      | none => rfl
      | some old =>
        rw [Option.toList_some, List.flatMap_cons, List.flatMap_nil, h n old hc]
        rfl
    simp only [State.step, call_eq, hold]
    refine ⟨?_, h.put _ n hspans⟩
    simp only [Observation.silent, Observation.closing, Report.inSpan, hin]
    rfl
  | offer n source route =>
    simp only [State.step]
    split
    · rw [offer_observed]
      refine ⟨rfl, fun m d hd => h m d ?_⟩
      rwa [offer_calls] at hd
    · exact ⟨rfl, h⟩
  | settle n o =>
    simp only [State.step]
    split
    · next c hc => exact ⟨rfl, h.put t.shared n (h n c hc)⟩
    · exact ⟨rfl, h⟩
  | poll n =>
    simp only [State.step]
    split
    · next c hc =>
      cases hl : c.live with
      | false =>
        rw [poll_dead t n hl]
        exact ⟨rfl, h⟩
      | true =>
        cases ho : c.outcome with
        | none =>
          rw [poll_pending t n hl ho, hinSpan hc]
          exact ⟨rfl, h.put t.shared n (h n c hc)⟩
        | some o =>
          rw [poll_ready t n hl ho, hinSpan hc, h n c hc]
          exact ⟨rfl, h.put t.shared n (Future.spans_taken _)⟩
    · exact ⟨rfl, h⟩
  | drop n =>
    simp only [State.step]
    split
    · next c hc =>
      rw [drop_eq, h n c hc]
      exact ⟨rfl, h.put t.shared n (Future.spans_taken _)⟩
    · exact ⟨rfl, h⟩

theorem NoSpans.run {t : State} (h : NoSpans t) (hp : Private t) (s : Service)
    (steps : List Step) : (t.run s.off steps).all (·.silent) = true := by
  induction steps generalizing t with
  | nil => rfl
  | cons step steps ih =>
    obtain ⟨hsilent, hnext⟩ := h.step hp.attached s step
    simp only [State.run, List.all_cons, hsilent, Bool.true_and]
    exact ih hnext (hp.step s.off step)

end State

/-- **Telemetry is transparent.** Switching off all layers of a service changes nothing of the traffic:
at every step the answer on readiness, the request the handler receives and the outcome the future
yields are the same. With the layers off no span is reported, no event is logged and no handler runs
in a span, and a request reaches the handler as it came, with its connection noted and with the route
holder it came with, if any. -/
theorem traffic_off (service : Service) (steps earlier : List Step) (name : Text)
    (request : Http.Request) (later : List Step) :
    (Session.run service [] steps).map (·.report.traffic) =
      (Session.run service.off [] steps).map (·.report.traffic) ∧
    (Session.run service.off [] steps).all (·.silent) = true ∧
    ((Session.run service.off [] (earlier ++ .call name request :: later))[earlier.length]?).map
        (·.report) =
      some (.received (service.inject request) request.route false) := by
  have hnone : State.NoSpans {} := fun n c hc => by cases hc
  refine ⟨State.traffic_eq_of_connection_eq service service.off rfl steps fun n => rfl,
    hnone.run State.Private.initial service steps, ?_⟩
  have hprivate := State.private_after service.off earlier
  obtain ⟨hreceived, hholder, hin, -⟩ := State.call_off service request hprivate.attached
  rw [Session.run, State.getElem?_run, List.getElem?_append_right (Nat.le_refl _), Nat.sub_self,
    List.take_left]
  simp only [List.getElem?_cons_zero, Option.map_some, State.step, State.call_eq,
    Observation.closing]
  rw [hreceived, hholder, hin]

end Session

end ServerTelemetry
