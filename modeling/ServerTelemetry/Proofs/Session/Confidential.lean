import ServerTelemetry.Proofs.Extractor.Headers
import ServerTelemetry.Proofs.Session.Simulation

/-!
# Headers that are not asked for stay out of telemetry

Two sessions that differ in headers no layer reads, and in bodies, close the same spans
(`Service.sameSpans`), as far as no context is taken from headers. What is logged of a span depends
on even less: two sessions with the same methods, paths, statuses and error texts log the same,
whatever else is different between them (`Service.sameLogs`).
-/

namespace ServerTelemetry

open Session

/-! ## What is told apart -/

/-- Outcomes that may differ in bodies and in headers with other names. -/
inductive Outcome.AgreeOn (names : List Text) : Outcome → Outcome → Prop
  | response {r r' : Http.Response} (h : r.AgreeOn names r') :
      AgreeOn names (.response r) (.response r')
  | failure (error : Text) : AgreeOn names (.failure error) (.failure error)

theorem Outcome.AgreeOn.mono {names more : List Text} {o o' : Outcome} (h : o.AgreeOn more o')
    (hsub : names ⊆ more) : o.AgreeOn names o' := by
  cases h with
  | response h => exact .response ⟨h.status, fun name hname => h.headers name (hsub hname)⟩
  | failure error => exact .failure error

namespace Service

/-- The layers that open spans. -/
def enabled (s : Service) : List Layer :=
  s.layers.filter (·.enabled)

/-- The names of the request headers that are read. -/
def requestReads (s : Service) : List Text :=
  s.enabled.flatMap (·.extractor.requestReads)

/-- The names of the response headers that are read. -/
def responseReads (s : Service) : List Text :=
  s.enabled.flatMap (·.extractor.responseHeaders)

/-- Nothing is told apart by bodies and by headers that no layer reads. -/
def unread (s : Service) : Likeness where
  requests := Http.Request.AgreeOn s.requestReads
  outcomes := Outcome.AgreeOn s.responseReads
  offers := Eq

end Service

/-- Requests are told apart by method and path, outcomes by status and error text, and offers not at
all. -/
def Likeness.logged : Likeness where
  requests r r' := r.method = r'.method ∧ r.uri.path = r'.uri.path
  outcomes := Outcome.AgreeOn []
  offers _ _ := True

/-! ## Closing -/

namespace OpenSpan

variable {x y : OpenSpan} {o o' : Option Outcome}

/-- What is logged of a span is said by method and path, and by status or error text. -/
theorem log_congr (hmethod : x.request.method = y.request.method)
    (hpath : x.request.uri.path = y.request.uri.path)
    (ho : Option.Rel (Outcome.AgreeOn []) o o') : x.log o = y.log o' := by
  unfold log
  rw [hmethod, hpath]
  cases ho with
  | none => rfl
  | some h =>
    cases h with
    | response h => simp only [h.status]
    | failure error => rfl

theorem status_congr {names : List Text} (ho : Option.Rel (Outcome.AgreeOn names) o o') :
    status o = status o' := by
  cases ho with
  | none => rfl
  | some h =>
    cases h with
    | response h => simp only [status, h.status]
    | failure error => rfl

theorem endAttributes_congr {names : List Text} (hnames : x.extractor.responseHeaders ⊆ names)
    (ho : Option.Rel (Outcome.AgreeOn names) o o') (route : Option Text) :
    x.endAttributes route o = x.endAttributes route o' := by
  cases ho with
  | none => rfl
  | some h =>
    have hread := h.mono hnames
    cases hread with
    | response hr => exact Extractor.onEnd_eq_of_agreeOn hr none route
    | failure error => rfl

/-- Spans of a layer that is enabled, which differ in their requests at most, but in neither method
nor target. -/
structure SameFor (s : Service) (x y : OpenSpan) : Prop where
  layer : ∃ layer ∈ s.enabled, x.extractor = layer.extractor
  method : x.request.method = y.request.method
  uri : x.request.uri = y.request.uri
  rest : y = { x with request := y.request }

theorem SameFor.close {s : Service} (h : SameFor s x y)
    (ho : Option.Rel (Outcome.AgreeOn s.responseReads) o o') (holder : RouteHolder) :
    x.close holder o = y.close holder o' := by
  have hnames : x.extractor.responseHeaders ⊆ s.responseReads := by
    obtain ⟨layer, hlayer, he⟩ := h.layer
    intro name hname
    rw [he] at hname
    exact List.mem_flatMap.2 ⟨layer, hlayer, hname⟩
  have hlog : x.log o = y.log o' := by
    refine log_congr h.method (congrArg _ h.uri) ?_
    cases ho with
    | none => exact .none
    | some ho => exact .some (ho.mono (List.nil_subset _))
  have hreport : x.report holder o = y.report holder o' := by
    rw [h.rest]
    simp only [report, status_congr ho, endAttributes_congr hnames ho]
    rfl
  rw [OpenSpan.close, OpenSpan.close, hlog, hreport, h.rest]

end OpenSpan

namespace Service

variable (s : Service)

/-! ## Opening -/

theorem inject_agreeOn {names : List Text} {r r' : Http.Request} (h : r.AgreeOn names r') :
    (s.inject r).AgreeOn names (s.inject r') := by
  unfold inject
  split
  · exact h.withConnection _
  · exact h

theorem freshHolder_congr {names : List Text} {r r' : Http.Request} (h : r.AgreeOn names r')
    (e : Extractor) : OpenSpan.freshHolder e r = OpenSpan.freshHolder e r' :=
  congrArg RouteHolder.new (Extractor.spanName_eq_of_agreeOn h none)

theorem opened_sameFor (hcarried : s.propagators = []) {layer : Layer} (hlayer : layer ∈ s.enabled)
    {r r' : Http.Request} (h : r.AgreeOn s.requestReads r') (w : Shared) :
    OpenSpan.SameFor s (s.opened layer r w) (s.opened layer r' w) := by
  have hreads : layer.extractor.requestReads ⊆ s.requestReads :=
    fun name hname => List.mem_flatMap.2 ⟨layer, hlayer, hname⟩
  have hattributes := Extractor.onStart_eq_of_agreeOn
    ((h.withRoute (some (OpenSpan.freshHolder layer.extractor r'))).mono hreads)
  refine ⟨⟨layer, hlayer, rfl⟩, h.method, h.uri, ?_⟩
  simp only [opened, OpenSpan.start, hcarried, freshHolder_congr h, hattributes]
  rfl

/-- On their way to the handler, requests that are not told apart open the same spans. -/
theorem enter_sameFor (hcarried : s.propagators = []) :
    ∀ (layers : List Layer), layers ⊆ s.layers → ∀ {r r' : Http.Request},
      r.AgreeOn s.requestReads r' → ∀ (place : Option Nat) (w : Shared),
        (s.enter layers r place w).2 = (s.enter layers r' place w).2 ∧
          (s.enter layers r place w).1.place = (s.enter layers r' place w).1.place ∧
          List.Forall₂ (OpenSpan.SameFor s) (s.enter layers r place w).1.future.spans
            (s.enter layers r' place w).1.future.spans := by
  intro layers
  induction layers with
  | nil => exact fun _ _ _ _ place w => ⟨rfl, rfl, .nil⟩
  | cons layer layers ih =>
    intro hlayers r r' h place w
    obtain ⟨hlayer, hlayers⟩ := List.cons_subset.1 hlayers
    cases hen : layer.enabled with
    | false =>
      rw [enter_disabled s hen, enter_disabled s hen]
      exact ih hlayers h place w
    | true =>
      have hspan := opened_sameFor s hcarried (List.mem_filter.2 ⟨hlayer, hen⟩) h w
      have hholder := freshHolder_congr h layer.extractor
      -- The spans have the same context and place, and the requests in them get the same holder.
      have hcontext : (s.opened layer r' w).context = (s.opened layer r w).context := by
        rw [hspan.rest]
        rfl
      have hrequest : (s.opened layer r w).request.AgreeOn s.requestReads
          (s.opened layer r' w).request := by
        have hr : (s.opened layer r w).request
            = { r with route := some (OpenSpan.freshHolder layer.extractor r') } := by
          rw [← hholder]
          rfl
        rw [hr]
        exact h.withRoute _
      obtain ⟨hshared, hplace, hspans⟩ := ih hlayers hrequest (some w.next)
        ((w.keep (OpenSpan.freshHolder layer.extractor r)).attach (s.opened layer r w).context)
      simp only [enter_enabled s hen, hcontext, ← hholder]
      exact ⟨congrArg Shared.detach hshared, hplace, .cons hspan hspans⟩

theorem call_sameFor (hcarried : s.propagators = []) {r r' : Http.Request}
    (h : r.AgreeOn s.requestReads r') (w : Shared) :
    (s.call r w).2 = (s.call r' w).2 ∧ (s.call r w).1.place = (s.call r' w).1.place ∧
      List.Forall₂ (OpenSpan.SameFor s) (s.call r w).1.future.spans
        (s.call r' w).1.future.spans := by
  have hinjected := s.inject_agreeOn h
  rw [call_eq_enter, call_eq_enter, hinjected.route]
  exact s.enter_sameFor hcarried s.layers (List.Subset.refl _) hinjected _ _

/-- Sessions that differ in what no layer reads close the same spans. -/
def sameSpans (hcarried : s.propagators = []) : Simulation s.unread Eq s s where
  shared := Eq
  places := Eq
  spans := OpenSpan.SameFor s
  initial := rfl
  close := by
    rintro w _ x y o o' rfl h ho
    have hplace : y.place = x.place := by rw [h.rest]
    rw [hplace]
    exact h.close ho (w.holderAt x.place)
  offer := by
    rintro t v c d source source' route route' hshared hplace hoffer
    obtain ⟨rfl, rfl⟩ := Prod.mk.inj hoffer
    simp only [Session.State.offer, ← hplace]
    cases c.place with
    | none => exact hshared
    | some place => simp only [hshared]
  call := by
    rintro w _ r r' rfl h
    exact s.call_sameFor hcarried h w

/-! ## What is logged -/

/-- The spans of a call are those of its request, one for each layer that is enabled. -/
theorem enter_spans (layers : List Layer) (r : Http.Request) (place : Option Nat) (w : Shared) :
    (∀ x ∈ (s.enter layers r place w).1.future.spans,
        x.request.method = r.method ∧ x.request.uri = r.uri) ∧
      (s.enter layers r place w).1.future.spans.length
        = (layers.filter (·.enabled)).length := by
  induction layers generalizing r place w with
  | nil => exact ⟨fun x hx => absurd hx List.not_mem_nil, rfl⟩
  | cons layer layers ih =>
    cases hen : layer.enabled with
    | false =>
      rw [enter_disabled s hen, List.filter_cons_of_neg (by simp [hen])]
      exact ih r place w
    | true =>
      rw [enter_enabled s hen, List.filter_cons_of_pos hen]
      obtain ⟨htarget, hlength⟩ := ih (s.opened layer r w).request (some w.next)
        ((w.keep (OpenSpan.freshHolder layer.extractor r)).attach (s.opened layer r w).context)
      exact ⟨List.forall_mem_cons.2 ⟨⟨rfl, rfl⟩, htarget⟩, congrArg (· + 1) hlength⟩

theorem call_spans (r : Http.Request) (w : Shared) :
    (∀ x ∈ (s.call r w).1.future.spans, x.request.method = r.method ∧ x.request.uri = r.uri) ∧
      (s.call r w).1.future.spans.length = s.enabled.length := by
  obtain ⟨hmethod, huri⟩ := s.inject_target r
  rw [← hmethod, ← huri, call_eq_enter]
  exact s.enter_spans s.layers (s.inject r) _ _

/-- Sessions with the same methods, paths, statuses and error texts log the same, under any services
with as many layers that are enabled. -/
def sameLogs {a b : Service} (hlayers : a.enabled.length = b.enabled.length) :
    Simulation .logged (fun c d => c.log = d.log) a b where
  shared _ _ := True
  places _ _ := True
  spans x y := x.request.method = y.request.method ∧ x.request.uri.path = y.request.uri.path
  initial := trivial
  close := by
    rintro w v x y o o' - ⟨hmethod, hpath⟩ ho
    exact OpenSpan.log_congr hmethod hpath ho
  offer := by
    intros
    trivial
  call := by
    rintro w v r r' - ⟨hmethod, hpath⟩
    obtain ⟨hleft, hlength⟩ := a.call_spans r w
    obtain ⟨hright, hlength'⟩ := b.call_spans r' v
    refine ⟨trivial, trivial, List.forall₂_iff_zip.2 ⟨?_, fun {x y} hxy => ?_⟩⟩
    · rw [hlength, hlength', hlayers]
    · obtain ⟨hx, hy⟩ := List.of_mem_zip hxy
      obtain ⟨hm, hu⟩ := hleft x hx
      obtain ⟨hm', hu'⟩ := hright y hy
      rw [hm, hm', hu, hu']
      exact ⟨hmethod, hpath⟩

end Service

/-! ## Whole sessions -/

/-- What is reported and logged. -/
def Observation.telemetry (o : Observation) : List Span × List LogEvent :=
  (o.spans, o.logs)

theorem map_eq_of_forall₂ {α β : Type} {R : α → α → Prop} {f : α → β}
    (hf : ∀ x y, R x y → f x = f y) {xs ys : List α} (h : List.Forall₂ R xs ys) :
    xs.map f = ys.map f := by
  induction h with
  | nil => rfl
  | cons hxy _ ih => exact congrArg₂ List.cons (hf _ _ hxy) ih

theorem Observation.Like.telemetry_eq {o o' : Observation} (h : o.Like Eq o') :
    o.telemetry = o'.telemetry := by
  cases h with
  | closing h _ _ =>
    rw [List.forall₂_eq_eq_eq] at h
    subst h
    rfl

theorem Observation.Like.logs_eq {o o' : Observation}
    (h : o.Like (fun c d => c.log = d.log) o') : o.logs = o'.logs := by
  cases h with
  | closing h _ _ => exact map_eq_of_forall₂ (fun _ _ hlog => hlog) h

/-- **Headers that are not asked for stay out of telemetry.** Requests with the same method, target,
version and extensions, and the same fields of the names that the extractor reads, have the same
attributes and span name. Responses with the same status and the same fields to record have the same
attributes. So two sessions without formats for contexts, which differ in other headers and in
bodies alone, report and log the same at every step. Two sessions that have no more in common than
methods, paths, statuses and error texts still log the same, if as many of their layers are
enabled. -/
theorem unread_headers_hidden :
    (∀ (e : Extractor) (r r' : Http.Request), r.AgreeOn e.requestReads r' →
      e.onStart r.facts = e.onStart r'.facts ∧
        ∀ route, e.spanName r.facts route = e.spanName r'.facts route) ∧
    (∀ (e : Extractor) (r r' : Http.Response), r.AgreeOn e.responseHeaders r' →
      ∀ error route, e.onEnd (some r.facts) error route = e.onEnd (some r'.facts) error route) ∧
    (∀ service : Service, service.propagators = [] → ∀ steps steps' : List Step,
      List.Forall₂ (Step.Like service.unread) steps steps' →
      (Session.run service [] steps).map (·.telemetry) =
        (Session.run service [] steps').map (·.telemetry)) ∧
    ∀ a b : Service, a.enabled.length = b.enabled.length → ∀ steps steps' : List Step,
      List.Forall₂ (Step.Like .logged) steps steps' →
      (Session.run a [] steps).map (·.logs) = (Session.run b [] steps').map (·.logs) := by
  refine ⟨fun e r r' h => ?_, fun e r r' h => ?_, fun service hcarried steps steps' h => ?_,
    fun a b hlayers steps steps' h => ?_⟩
  · exact ⟨Extractor.onStart_eq_of_agreeOn h, Extractor.spanName_eq_of_agreeOn h⟩
  · exact Extractor.onEnd_eq_of_agreeOn h
  · exact map_eq_of_forall₂ (fun _ _ hlike => hlike.telemetry_eq)
      ((service.sameSpans hcarried).run h)
  · exact map_eq_of_forall₂ (fun _ _ hlike => hlike.logs_eq)
      ((Service.sameLogs hlayers).run h)

/-- A call with credentials, whose response sets a cookie, leaves the same span as one without. -/
theorem unread_headers_hidden_credentials :
    let service : Service := ⟨[], none, [⟨.standard, true⟩], {}⟩
    let session (sent returned : Http.Headers) : List Step :=
      [.call "a".toList ⟨"GET".toList, .origin "/".toList none, .v11, sent, [], none, none⟩,
        .settle "a".toList (.response ⟨200, returned, []⟩), .poll "a".toList]
    let credentials : Http.Headers := [⟨"authorization".toList, [66, 58]⟩]
    let cookie : Http.Headers := [⟨"set-cookie".toList, [97, 61]⟩]
    ((Session.run service [] (session credentials cookie)).flatMap (·.spans)).length = 1 ∧
      (Session.run service [] (session credentials cookie)).map (·.telemetry) =
        (Session.run service [] (session [] [])).map (·.telemetry) := by
  intro service session credentials cookie
  refine ⟨rfl, unread_headers_hidden.2.2.1 service rfl _ _ ?_⟩
  refine .cons (.call _ ⟨rfl, rfl, rfl, rfl, rfl, by decide⟩) (.cons (.settle _ ?_) ?_)
  · exact .response ⟨rfl, by decide⟩
  · exact .cons (.poll _) .nil

end ServerTelemetry
