import Mathlib.Data.List.Perm.Basic
import ServerTelemetry.Proofs.Session.Confidential
import ServerTelemetry.Proofs.Session.Lifecycle

/-!
# Propagation formats in any order

A caller that sends its context in one way is understood alike in whatever order the formats are
configured. Formats that read something else find nothing (`Propagator.extract?_eq_none`), and the
two forms of B3, which read the same headers, do not find different contexts (`extractB3_agree`). So
the formats agree with each other, and what they find together is what any of them finds
(`extractAll?_eq_some_iff`).

A service looks at its formats in no other way: in another order of them it answers a call alike
(`Service.call_inOrder`), and with it whole sessions of such callers (`Session.run_inOrder`).
-/

namespace ServerTelemetry

open Text

/-! ## Ways to send a context -/

/-- The ways in which a caller sends its context. -/
inductive Carrier where
  | traceParent
  /-- The single header of B3. -/
  | b3
  /-- The many headers of B3. -/
  | b3Headers
  | uberTraceId
  deriving DecidableEq, Repr

namespace Carrier

/-- The header with the id of the trace. Nothing else that is sent along is looked at without it. -/
def header : Carrier → Text
  | traceParent => "traceparent".toList
  | b3 => "b3".toList
  | b3Headers => "x-b3-traceid".toList
  | uberTraceId => "uber-trace-id".toList

/-- The formats that look for a context there. -/
def readers : Carrier → List Propagator
  | traceParent => [.traceContext]
  | b3 | b3Headers => [.b3, .b3Multi]
  | uberTraceId => [.jaeger]

end Carrier

namespace Http.Headers

/-- The headers have nothing of a carrier. -/
def Lack (headers : Headers) (carrier : Carrier) : Prop :=
  ∀ h ∈ headers, h.name ≠ carrier.header

instance (headers : Headers) (carrier : Carrier) : Decidable (headers.Lack carrier) :=
  inferInstanceAs (Decidable (∀ h ∈ headers, h.name ≠ carrier.header))

/-- Whatever context the headers have is in one carrier. -/
def OnlyIn (headers : Headers) (carrier : Carrier) : Prop :=
  ∀ other, other ≠ carrier → headers.Lack other

/-- The headers have a context that identifies a span in one carrier, where one of these formats
understands it, and none in any other. -/
structure Carry (headers : Headers) (carrier : Carrier) (formats : List Propagator)
    (context : SpanContext) : Prop where
  read : ∃ p ∈ formats, p.extract? headers = some context
  valid : context.isValid
  only : headers.OnlyIn carrier

theorem first?_eq_none {headers : Headers} {name : Text} (h : ∀ x ∈ headers, x.name ≠ lower name) :
    headers.first? name = none := by
  have hfind : headers.find? (fun x => x.name == lower name) = none :=
    List.find?_eq_none.2 fun x hx => by simpa using h x hx
  rw [first?, hfind, Option.bind_none]

theorem Lack.first? {headers : Headers} {carrier : Carrier} (h : headers.Lack carrier) :
    headers.first? carrier.header = none := by
  refine first?_eq_none fun x hx => ?_
  have hlower : lower carrier.header = carrier.header := by cases carrier <;> decide
  rw [hlower]
  exact h x hx

end Http.Headers

/-! ## Formats that agree -/

/-- Answers that are the same if there are two. -/
def Agree {α : Type} (a b : Option α) : Prop :=
  ∀ x ∈ a, ∀ y ∈ b, x = y

namespace Agree

variable {α β : Type}

theorem refl (a : Option α) : Agree a a :=
  fun _ hx _ hy => Option.mem_unique hx hy

theorem bind {a b : Option α} {f g : α → Option β} (h : Agree a b) (hfg : ∀ x, Agree (f x) (g x)) :
    Agree (a >>= f) (b >>= g) := by
  intro x hx y hy
  obtain ⟨u, hu, hfu⟩ := Option.bind_eq_some_iff.1 hx
  obtain ⟨v, hv, hgv⟩ := Option.bind_eq_some_iff.1 hy
  obtain rfl := h u hu v hv
  exact hfg u x hfu y hgv

end Agree

namespace Propagator

/-- A word for the sampling decision means the same in both forms of B3, if both have it. -/
theorem b3Sampled?_agree (m m' : Bool) (s : Text) : Agree (b3Sampled? m s) (b3Sampled? m' s) := by
  intro x hx y hy
  simp only [b3Sampled?] at hx hy
  by_cases h0 : s = "0".toList ∨ s = "false".toList
  · rw [if_pos h0] at hx hy
    exact Option.mem_unique hx hy
  by_cases h1 : s = "1".toList
  · rw [if_neg h0, if_pos h1] at hx hy
    exact Option.mem_unique hx hy
  -- Of the words that are left, one form has `true` and the other one `d`.
  have hne : "true".toList ≠ "d".toList := by decide
  rw [if_neg h0, if_neg h1] at hx hy
  by_cases ht : s = "true".toList
  · have hd : s ≠ "d".toList := ht ▸ hne
    simp only [ht, hne, true_and, false_and, ↓reduceIte, Option.mem_ite_none_right] at hx hy
    exact Option.mem_unique hx.2 hy.2
  · simp only [ht, false_and, ↓reduceIte, Option.mem_ite_none_right] at hx hy
    exact Option.mem_unique hx.2 hy.2

theorem readB3_agree (m m' : Bool) (value : Text) : Agree (readB3 m value) (readB3 m' value) := by
  unfold readB3
  split
  · exact .refl _
  · refine (Agree.refl _).bind fun _ => (Agree.refl _).bind fun _ => ?_
    exact (b3Sampled?_agree m m' _).bind fun _ => .refl _
  · refine (Agree.refl _).bind fun _ => (Agree.refl _).bind fun _ => ?_
    exact (b3Sampled?_agree m m' _).bind fun _ => .refl _
  · exact .refl _

theorem readB3Headers_agree (m m' : Bool) (headers : Http.Headers) :
    Agree (readB3Headers m headers) (readB3Headers m' headers) := by
  unfold readB3Headers
  refine (Agree.refl _).bind fun _ => (Agree.refl _).bind fun _ => (Agree.refl _).bind fun _ =>
    (Agree.refl _).bind fun _ => ?_
  split
  · exact .refl _
  · split
    · exact (b3Sampled?_agree m m' _).bind fun _ => .refl _
    · exact .refl _

theorem readB3Headers_eq_none {headers : Http.Headers} (h : headers.Lack .b3Headers) (m : Bool) :
    readB3Headers m headers = none := by
  have hfirst : headers.first? "x-b3-traceid".toList = none := h.first?
  simp only [readB3Headers, hfirst]
  rfl

/-- The two forms of B3 find the same, if they find anything in the same carrier. -/
theorem extractB3_agree {headers : Http.Headers} {carrier : Carrier} (h : headers.OnlyIn carrier)
    (m m' : Bool) : Agree (extractB3 m headers) (extractB3 m' headers) := by
  unfold extractB3
  by_cases hc : carrier = .b3
  · subst hc
    have hlack : headers.Lack .b3Headers := h _ (by decide)
    rw [readB3Headers_eq_none hlack, readB3Headers_eq_none hlack, Option.or_none, Option.or_none]
    exact (Agree.refl _).bind (readB3_agree m m')
  · have hfirst : headers.first? "b3".toList = none := (h .b3 (Ne.symm hc)).first?
    rw [hfirst, Option.bind_none, Option.bind_none, Option.none_or, Option.none_or]
    exact readB3Headers_agree m m' headers

/-- A format finds nothing where nothing it reads is sent. -/
theorem extract?_eq_none {p : Propagator} {headers : Http.Headers}
    (h : ∀ carrier : Carrier, p ∈ carrier.readers → headers.Lack carrier) :
    p.extract? headers = none := by
  have hb3 (hlack : headers.Lack .b3) (hlacks : headers.Lack .b3Headers) (m : Bool) :
      extractB3 m headers = none := by
    have hfirst : headers.first? "b3".toList = none := hlack.first?
    rw [extractB3, hfirst, readB3Headers_eq_none hlacks]
    rfl
  cases p with
  | traceContext =>
    have hfirst : headers.first? "traceparent".toList = none := (h .traceParent (by decide)).first?
    rw [extract?, hfirst, Option.bind_none]
  | baggage => rfl
  | b3 => exact hb3 (h .b3 (by decide)) (h .b3Headers (by decide)) false
  | b3Multi => exact hb3 (h .b3 (by decide)) (h .b3Headers (by decide)) true
  | jaeger =>
    have hfirst : headers.first? "uber-trace-id".toList = none :=
      (h .uberTraceId (by decide)).first?
    rw [extract?, hfirst, Option.bind_none, Option.filter_none]

section OnlyIn

variable {headers : Http.Headers} {carrier : Carrier} (h : headers.OnlyIn carrier)
include h

theorem mem_readers {p : Propagator} {c : SpanContext} (hp : p.extract? headers = some c) :
    p ∈ carrier.readers := by
  by_contra hnot
  have hnone : p.extract? headers = none := by
    refine extract?_eq_none fun other hother => h other ?_
    rintro rfl
    exact hnot hother
  rw [hnone] at hp
  cases hp

/-- Formats do not find different contexts in one carrier. -/
theorem extract?_agree (p q : Propagator) : Agree (p.extract? headers) (q.extract? headers) := by
  intro x hx y hy
  have hp := mem_readers h hx
  have hq := mem_readers h hy
  -- The only ones that read a carrier together are the forms of B3.
  have hb3 {p : Propagator} (hp : p ∈ [b3, b3Multi]) :
      ∃ m, p.extract? headers = extractB3 m headers := by
    rcases List.mem_pair.1 hp with rfl | rfl
    · exact ⟨false, rfl⟩
    · exact ⟨true, rfl⟩
  cases carrier with
  | traceParent | uberTraceId =>
    obtain rfl := List.mem_singleton.1 hp
    obtain rfl := List.mem_singleton.1 hq
    exact Option.mem_unique hx hy
  | b3 | b3Headers =>
    obtain ⟨m, hm⟩ := hb3 hp
    obtain ⟨m', hm'⟩ := hb3 hq
    rw [hm] at hx
    rw [hm'] at hy
    exact extractB3_agree h m m' x hx y hy

end OnlyIn

/-! ## Several formats -/

/-- Of several formats the last one that finds a context decides. -/
theorem extractAll?_eq_findSome? (ps : List Propagator) (headers : Http.Headers) :
    extractAll? ps headers = ps.reverse.findSome? (·.extract? headers) := by
  -- From the end, where the format stands that is asked first on the right.
  induction ps using List.reverseRecOn with
  | nil => rfl
  | append_singleton ps p ih =>
    have hlast : extractAll? (ps ++ [p]) headers =
        (p.extract? headers).or (extractAll? ps headers) := by
      simp only [extractAll?, List.foldl_append, List.foldl_cons, List.foldl_nil]
    rw [hlast, ih, List.reverse_append, List.reverse_singleton, List.singleton_append,
      List.findSome?_cons]
    cases p.extract? headers <;> rfl

section OnlyIn

variable {headers : Http.Headers} {carrier : Carrier} (h : headers.OnlyIn carrier)
include h

/-- **What several formats find in one carrier is what any of them finds.** -/
theorem extractAll?_eq_some_iff (ps : List Propagator) (c : SpanContext) :
    extractAll? ps headers = some c ↔ ∃ p ∈ ps, p.extract? headers = some c := by
  rw [extractAll?_eq_findSome?]
  constructor
  · intro hfound
    obtain ⟨p, hp, hc⟩ := List.exists_of_findSome?_eq_some hfound
    exact ⟨p, List.mem_reverse.1 hp, hc⟩
  · rintro ⟨p, hp, hc⟩
    have hsome : (ps.reverse.findSome? (·.extract? headers)).isSome :=
      List.findSome?_isSome_iff.2 ⟨p, List.mem_reverse.2 hp, by rw [hc]; rfl⟩
    obtain ⟨d, hd⟩ := Option.isSome_iff_exists.1 hsome
    obtain ⟨q, -, hq⟩ := List.exists_of_findSome?_eq_some hd
    rw [hd, extract?_agree h q p d hq c hc]

theorem extractAll?_perm {ps qs : List Propagator} (hperm : ps.Perm qs) :
    extractAll? ps headers = extractAll? qs headers := by
  ext c
  rw [extractAll?_eq_some_iff h, extractAll?_eq_some_iff h]
  exact exists_congr fun p => and_congr_left' hperm.mem_iff

end OnlyIn

end Propagator

/-! ## Services -/

/-- A span is reported with the parent it was opened with. -/
theorem OpenSpan.close_parent {s : OpenSpan} {holder : RouteHolder} {outcome : Option Outcome}
    {reported : Span} (h : (s.close holder outcome).span = some reported) :
    reported.parent = s.parent.reported := by
  simp only [close] at h
  split at h
  · obtain rfl := Option.some.inj h
    rfl
  · cases h

/-- What identifies a span is somebody's parent. -/
theorem Parent.reported_remote {c : SpanContext} (h : c.isValid) :
    (Parent.remote c).reported = .remote c := by
  have hspan : c.spanId ≠ 0 := by
    simp only [SpanContext.isValid, Bool.and_eq_true, bne_iff_ne] at h
    exact h.2
  exact if_neg hspan

namespace Service

variable (s : Service) {order : List Propagator}

/-- The service with other formats, or with its own in another order. -/
def inOrder (order : List Propagator) : Service :=
  { s with propagators := order }

/-- A request goes on with a holder, but with the headers it came with. -/
theorem opened_headers (layer : Layer) (request : Http.Request) (w : Shared) :
    (s.opened layer request w).request.headers = request.headers := rfl

theorem enter_inOrder (layers : List Layer) {request : Http.Request}
    (h : Propagator.extractAll? order request.headers =
      Propagator.extractAll? s.propagators request.headers) (place : Option Nat) (w : Shared) :
    (s.inOrder order).enter layers request place w = s.enter layers request place w := by
  induction layers generalizing request place w with
  | nil => rfl
  | cons layer layers ih =>
    cases hen : layer.enabled with
    | false => rw [enter_disabled _ hen, enter_disabled _ hen, ih h]
    | true =>
      have hopened : (s.inOrder order).opened layer request w = s.opened layer request w := by
        simp only [opened, inOrder, h]
      have hinside := ih ((s.opened_headers layer request w).symm ▸ h)
      rw [enter_enabled _ hen, enter_enabled _ hen, hopened]
      simp only [hinside]

/-- A call is answered alike if the formats find the same in its headers. -/
theorem call_inOrder {request : Http.Request}
    (h : Propagator.extractAll? order request.headers =
      Propagator.extractAll? s.propagators request.headers) (w : Shared) :
    (s.inOrder order).call request w = s.call request w := by
  have hheaders : Propagator.extractAll? order (s.inject request).headers =
      Propagator.extractAll? s.propagators (s.inject request).headers := by
    rw [inject_headers, h]
  rw [call_eq_enter, call_eq_enter]
  exact s.enter_inOrder s.layers hheaders _ _

/-- Every layer takes the context that the headers carry for the parent of its span. -/
theorem enter_parent (layers : List Layer) {request : Http.Request} {c : SpanContext}
    (h : Propagator.extractAll? s.propagators request.headers = some c) (place : Option Nat)
    (w : Shared) :
    ∀ span ∈ (s.enter layers request place w).1.future.spans, span.parent = .remote c := by
  induction layers generalizing request place w with
  | nil => exact fun span hspan => absurd hspan List.not_mem_nil
  | cons layer layers ih =>
    cases hen : layer.enabled with
    | false =>
      rw [enter_disabled s hen]
      exact ih h place w
    | true =>
      rw [enter_enabled s hen]
      have hopened : (s.opened layer request w).parent = .remote c := by
        change w.current.under (Propagator.extractAll? s.propagators request.headers) = _
        rw [h, Parent.under_some]
      have hinside := ih ((s.opened_headers layer request w).symm ▸ h)
      exact List.forall_mem_cons.2 ⟨hopened, hinside _ _⟩

theorem call_parent {request : Http.Request} {c : SpanContext}
    (h : Propagator.extractAll? s.propagators request.headers = some c) (w : Shared) :
    ∀ span ∈ (s.call request w).1.future.spans, span.parent = .remote c := by
  rw [← s.inject_headers request] at h
  rw [call_eq_enter]
  exact s.enter_parent s.layers h _ _

/-- **The order of the formats does not matter to a caller that uses one of them.** A request that
carries a context in one of the formats, and nothing of another, is answered alike by the service
with its formats in any order, whatever has happened before: each layer that is enabled opens a
span, and the parent of each is the context that was sent. However such a span is closed, it is
reported with that parent, if it is reported. -/
theorem parent_inOrder (order : List Propagator) (horder : order.Perm s.propagators)
    (request : Http.Request) (carrier : Carrier) (context : SpanContext)
    (hcarry : request.headers.Carry carrier s.propagators context) (w : Shared) :
    let spans := ((s.inOrder order).call request w).1.future.spans
    (s.inOrder order).call request w = s.call request w ∧
    spans.length = s.enabled.length ∧
    ∀ span ∈ spans, span.parent = .remote context ∧
      ∀ holder outcome reported, (span.close holder outcome).span = some reported →
        reported.parent = .remote context := by
  intro spans
  have hfound : Propagator.extractAll? s.propagators request.headers = some context :=
    (Propagator.extractAll?_eq_some_iff hcarry.only _ _).2 hcarry.read
  have hsame : (s.inOrder order).call request w = s.call request w :=
    s.call_inOrder (Propagator.extractAll?_perm hcarry.only horder) w
  obtain ⟨-, hlength⟩ := s.call_spans request w
  simp only [spans, hsame]
  refine ⟨trivial, hlength, fun span hspan => ?_⟩
  have hparent := s.call_parent hfound w span hspan
  refine ⟨hparent, fun holder outcome reported hclose => ?_⟩
  rw [OpenSpan.close_parent hclose, hparent, Parent.reported_remote hcarry.valid]

/-- A request with the single header of B3, which both forms of B3 read. -/
theorem parent_inOrder_b3 :
    let service :=
      (SingleLayer.mk [.b3, .traceContext, .b3Multi] none .standard 128).service
    let order : List Propagator := [.b3Multi, .b3, .traceContext]
    let request := Session.requestWith "b3" "4bf92f3577b34da6a3ce929d0e0e4736-00f067aa0ba902b7-1"
    let context : SpanContext := ⟨0x4bf92f3577b34da6a3ce929d0e0e4736, 0x00f067aa0ba902b7, true⟩
    order.Perm service.propagators ∧ request.headers.Carry .b3 service.propagators context ∧
    ∃ span, ((service.inOrder order).call request {}).1.future.spans = [span] ∧
      span.parent = .remote context := by
  intro service order request context
  have horder : order.Perm service.propagators := by decide
  have honly : request.headers.OnlyIn .b3 := by
    intro other hother
    cases other with
    | b3 => exact absurd rfl hother
    | _ => decide
  have hcarry : request.headers.Carry .b3 service.propagators context :=
    ⟨⟨.b3, by decide, by decide⟩, by decide, honly⟩
  obtain ⟨-, hlength, hparent⟩ :=
    service.parent_inOrder order horder request .b3 context hcarry {}
  obtain ⟨span, hspan⟩ := List.length_eq_one_iff.1 hlength
  refine ⟨horder, hcarry, span, hspan, (hparent span ?_).1⟩
  rw [hspan]
  exact List.mem_singleton_self span

end Service

/-! ## Sessions -/

namespace Session

/-- A step is the same for services with other formats, if these find the same in its request. -/
theorem State.step_inOrder (service : Service) {order : List Propagator} {s : Step}
    (h : ∀ name request, s = .call name request →
      Propagator.extractAll? order request.headers =
        Propagator.extractAll? service.propagators request.headers) (t : State) :
    t.step (service.inOrder order) s = t.step service s := by
  cases s with
  | call name request =>
    simp only [step, call, service.call_inOrder (h name request rfl)]
  | _ => rfl

/-- **A session of callers that use one format each is the same with the formats in any order.** -/
theorem run_inOrder (service : Service) {order : List Propagator}
    (horder : order.Perm service.propagators) {steps : List Step}
    (h : ∀ name request, .call name request ∈ steps →
      ∃ carrier, request.headers.OnlyIn carrier) :
    run (service.inOrder order) [] steps = run service [] steps := by
  have hrun : ∀ t : State, t.run (service.inOrder order) steps = t.run service steps := by
    induction steps with
    | nil => exact fun _ => rfl
    | cons s steps ih =>
      intro t
      have hstep : t.step (service.inOrder order) s = t.step service s := by
        refine t.step_inOrder service fun name request hs => ?_
        obtain ⟨carrier, honly⟩ := h name request (hs ▸ List.mem_cons_self)
        exact Propagator.extractAll?_perm honly horder
      simp only [State.run, hstep]
      rw [ih fun name request hmem => h name request (List.mem_cons_of_mem s hmem)]
  exact hrun _

end Session

end ServerTelemetry
