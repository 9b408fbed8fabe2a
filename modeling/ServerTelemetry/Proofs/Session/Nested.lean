import ServerTelemetry.Proofs.Session.Report

/-!
# One layer around another

A service may be wrapped in the same layer twice. Each call then has two spans, which are open for as
long as the call is in flight and are closed in the same step (`nested_spans`). The outer one is the
span a single layer would open. The inner one is opened inside it, and nothing but the outer span's
context is attached when that happens; it takes the place of the outer one's holder on the request, so
all offers go to the inner holder and the outer one stays as it was made.
-/

namespace ServerTelemetry

open Text

/-! ## What a route adds to a report -/

/-- A route comes behind everything else that is recorded of an outcome. -/
theorem Extractor.onEnd_eq_append (e : Extractor) (response : Option ResponseFacts)
    (error route : Option Text) :
    e.onEnd response error route =
      e.onEnd response error none ++ Attribute.text? .route (route.bind nonEmpty?) := by
  unfold onEnd
  simp [Attribute.text?]

theorem Shared.next_keep (w : Shared) (holder : RouteHolder) :
    (w.keep holder).next = w.next + 1 :=
  List.length_append

theorem Shared.brought_attached (w : Shared) (route : Option RouteHolder) :
    (w.brought route).attached = w.attached := by
  cases route <;> rfl

/-- What is observed when spans of one trace are closed: all of them are reported or none is. -/
theorem Observation.closing_all {sampled : Bool} (closed : List (OpenSpan × RouteHolder))
    (hsampled : ∀ p ∈ closed, p.1.sampled = sampled) (outcome : Option Outcome) (report : Report) :
    closing (closed.map fun (span, holder) => span.close holder outcome) report =
      ⟨if sampled then closed.map fun (span, holder) => span.report holder outcome else [],
        closed.map fun (span, _) => span.log outcome, report⟩ := by
  have hspans : (closed.map fun (span, holder) => span.close holder outcome).filterMap (·.span) =
      if sampled then closed.map fun (span, holder) => span.report holder outcome else [] := by
    induction closed with
    | nil => simp
    | cons p closed ih =>
      obtain ⟨hp, hclosed⟩ := List.forall_mem_cons.1 hsampled
      rw [List.map_cons, List.filterMap_cons, ih hclosed]
      simp only [OpenSpan.close, hp]
      cases sampled <;> rfl
  unfold closing
  rw [hspans, List.map_map]
  rfl

namespace SingleLayer

theorem report_attributes_take (l : SingleLayer) (r : Http.Request) (place : Nat) (h : RouteHolder)
    (final : Option Outcome) :
    ((l.span r place).report h final).attributes =
      ((l.extractor.onStart (l.facts r) ++ l.extractor.onEnd (responseOf final) (errorOf final) none)
        ++ Attribute.text? .route (h.route.bind nonEmpty?)).take l.attributeLimit := by
  unfold OpenSpan.report
  rw [OpenSpan.endAttributes_eq, Extractor.onEnd_eq_append, ← List.append_assoc]
  rfl

/-- Whether a route is held makes no difference to the other attributes, however few are kept. -/
theorem filter_report_attributes (l : SingleLayer) (r : Http.Request) (place : Nat)
    (h h' : RouteHolder) (final : Option Outcome) {name : Text} (hname : name ≠ "http.route".toList) :
    ((l.span r place).report h final).attributes.filter (·.key.name = name) =
      ((l.span r place).report h' final).attributes.filter (·.key.name = name) := by
  have hroute : ∀ (kept : List Attribute) (route : Option Text),
      ((kept ++ Attribute.text? .route route).take l.attributeLimit).filter (·.key.name = name) =
        (kept.take l.attributeLimit).filter (·.key.name = name) := by
    intro kept route
    rw [List.take_append, List.filter_append, List.append_right_eq_self, List.filter_eq_nil_iff]
    intro a ha
    rw [Attribute.key_of_mem_text? (List.mem_of_mem_take ha), decide_eq_true_eq]
    exact hname.symm
  rw [report_attributes_take, report_attributes_take, hroute, hroute]

/-- Without a route in the holder there is none among the attributes. -/
theorem routes_report_fresh (l : SingleLayer) (r : Http.Request) (place : Nat)
    (final : Option Outcome) :
    Attribute.routes ((l.span r place).report (l.holder r) final).attributes = [] := by
  have hnone : Attribute.routes (l.extractor.onStart (l.facts r) ++
      l.extractor.onEnd (responseOf final) (errorOf final) none) = [] := by
    rw [Attribute.routes_append, Extractor.routes_onStart, Extractor.routes_onEnd]
    rfl
  rw [report_attributes_take]
  refine List.filter_eq_nil_iff.2 fun a ha => List.filter_eq_nil_iff.1 hnone a ?_
  have hmem := List.mem_of_mem_take ha
  have hroute : (l.holder r).route = none := rfl
  rwa [hroute, Option.bind_none, Attribute.text?, Option.map_none, Option.toList_none,
    List.append_nil] at hmem

/-! ## A layer twice -/

/-- The service with the layer around it once more. -/
def twice (l : SingleLayer) : Service :=
  { l.service with layers := [⟨l.extractor, true⟩, ⟨l.extractor, true⟩] }

/-- The span of the inner layer for a request whose outer span is given. -/
def within (l : SingleLayer) (r : Http.Request) (outer : OpenSpan) : OpenSpan :=
  .start l.service.recording l.extractor outer.request (outer.context.under (l.carried r))
    (outer.depth + 1) (outer.place + 1)

theorem within_sampled (l : SingleLayer) (r : Http.Request) (place : Nat) :
    (l.within r (l.span r place)).sampled = (l.carried r).all (·.sampled) := by
  change ((l.span r place).context.under (l.carried r)).sampled?.getD true = _
  cases hcarried : l.carried r with
  | none =>
    have hsampled := l.span_sampled r place
    rw [hcarried] at hsampled
    exact hsampled
  | some context => rfl

theorem carried_eq_none {l : SingleLayer} (h : l.propagators = []) (r : Http.Request) :
    l.carried r = none := by
  rw [carried, h]
  rfl

/-- Without a caller's span the outer one is a root. -/
theorem span_parent {l : SingleLayer} {r : Http.Request} (h : l.carried r = none) (place : Nat) :
    (l.span r place).parent = .root := by
  change Parent.root.under (l.carried r) = _
  rw [h, Parent.under_none]

/-- Without a caller's span the inner one is in the outer one. -/
theorem within_parent {l : SingleLayer} {r : Http.Request} (h : l.carried r = none) (place : Nat) :
    let outer := l.span r place
    (l.within r outer).parent = .enclosing outer.depth none outer.sampled := by
  intro outer
  change outer.context.under (l.carried r) = _
  rw [h, Parent.under_none, OpenSpan.context, span_parent h]
  rfl

theorem opened_outer (l : SingleLayer) (r : Http.Request) {w : Shared} (hatt : w.attached = []) :
    l.twice.opened ⟨l.extractor, true⟩ (l.twice.inject r) w = l.span r w.next := by
  unfold Service.opened
  rw [Service.inject_headers, Shared.current, Shared.depth, hatt]
  rfl

/-- The inner span is opened while the outer span's context is the current one. -/
theorem opened_inner (l : SingleLayer) (r : Http.Request) {w : Shared} (hatt : w.attached = []) :
    let outer := l.span r w.next
    l.twice.opened ⟨l.extractor, true⟩ outer.request
      ((w.keep (l.holder r)).attach outer.context) = l.within r outer := by
  intro outer
  have hheaders : outer.request.headers = r.headers := l.service.inject_headers r
  have hnext : ((w.keep (l.holder r)).attach outer.context).next = outer.place + 1 :=
    Shared.next_keep ..
  have hdepth : ((w.keep (l.holder r)).attach outer.context).depth = outer.depth + 1 :=
    congrArg (List.length · + 1) hatt
  unfold Service.opened
  rw [hheaders, hnext, hdepth]
  rfl

theorem call_twice (l : SingleLayer) (r : Http.Request) {w : Shared} (hatt : w.attached = []) :
    l.twice.call r w =
      let outer := l.span r (w.brought r.route).next
      let inner := l.within r outer
      (⟨inner.request, some inner.place, inner.context.inSpan, [some outer, some inner]⟩,
        ((w.brought r.route).keep (l.holder r)).keep (l.holder r)) := by
  have henter : ∀ (place : Option Nat) (w : Shared), w.attached = [] →
      l.twice.enter l.twice.layers (l.twice.inject r) place w =
        let outer := l.span r w.next
        let inner := l.within r outer
        (⟨inner.request, some inner.place, inner.context.inSpan, [some outer, some inner]⟩,
          (w.keep (l.holder r)).keep (l.holder r)) := by
    intro place w hatt
    have hinner : l.twice.opened ⟨l.extractor, true⟩ (l.span r w.next).request
        ((w.keep (OpenSpan.freshHolder l.extractor (l.twice.inject r))).attach
          (l.span r w.next).context) = l.within r (l.span r w.next) := l.opened_inner r hatt
    have hlayers : l.twice.layers = [⟨l.extractor, true⟩, ⟨l.extractor, true⟩] := rfl
    rw [hlayers, Service.enter_enabled _ rfl, l.opened_outer r hatt]
    simp only [Service.enter_enabled, Service.enter_nil, hinner]
    rfl
  have hroute : (l.twice.inject r).route = r.route := l.twice.inject_route r
  cases h : r.route with
  | none =>
    rw [Service.call_none _ (hroute.trans h)]
    exact henter none w hatt
  | some holder =>
    rw [Service.call_some _ (hroute.trans h)]
    exact henter (some w.next) (w.keep holder) hatt

end SingleLayer

namespace Session

/-- The outer span of the request with which step `i` of a session calls the service. -/
def outerAt (l : SingleLayer) (steps : List Step) (i : Nat) (r : Http.Request) : OpenSpan :=
  l.span r ((State.after l.twice {} (steps.take i)).shared.brought r.route).next

/-- The inner span of that request. -/
def innerAt (l : SingleLayer) (steps : List Step) (i : Nat) (r : Http.Request) : OpenSpan :=
  l.within r (outerAt l steps i r)

theorem callAt_twice (l : SingleLayer) (steps : List Step) (i : Nat) (r : Http.Request) :
    (callAt l.twice steps i r).1 =
        (let inner := innerAt l steps i r
        ⟨inner.request, some inner.place, inner.context.inSpan,
          [some (outerAt l steps i r), some inner]⟩) ∧
      (callAt l.twice steps i r).2.holder? (outerAt l steps i r).place = some (l.holder r) ∧
      (callAt l.twice steps i r).2.holder? (innerAt l steps i r).place = some (l.holder r) := by
  have hatt := (State.private_after l.twice (steps.take i)).attached
  rw [callAt, l.call_twice r hatt]
  refine ⟨rfl, ?_, ?_⟩
  · refine Eq.trans (List.getElem?_append_left ?_) List.getElem?_concat_length
    exact Nat.lt_of_lt_of_eq (Nat.lt_succ_self _) (Shared.next_keep _ _).symm
  · exact Eq.trans (congrArg _ (Shared.next_keep _ _).symm) List.getElem?_concat_length

/-- The spans of a call that ends like this with their holders, in the order they are closed in. -/
theorem observed_of_endOf?_twice (l : SingleLayer) {steps : List Step} {i j : Nat} {n : Text}
    {r : Http.Request} {final : Option Outcome} (hi : steps[i]? = some (.call n r))
    (hend : endOf? steps i = some (j, final)) :
    let outer := outerAt l steps i r
    let inner := innerAt l steps i r
    let state := State.after l.twice {} (steps.take j)
    let holder := offeredBy n (l.holder r) ((steps.take j).drop (i + 1))
    let closed := if final.isSome then [(inner, holder), (outer, l.holder r)]
      else [(outer, l.holder r), (inner, holder)]
    state.shared.holder? outer.place = some (l.holder r) ∧
    state.shared.holder? inner.place = some holder ∧
    ∃ report, (run l.twice [] steps)[j]? = some
        ⟨if (l.carried r).all (·.sampled) then
            closed.map fun (span, held) => span.report held final else [],
          closed.map fun (span, _) => span.log final, report⟩ ∧
      report.yielded = final := by
  intro outer inner state holder closed
  obtain ⟨hcalled, hheld, hheld'⟩ := callAt_twice l steps i r
  obtain ⟨-, hholder, ⟨report, hobs, hyield⟩, -⟩ := State.ended_of_endOf? l.twice hi hend
  rw [hcalled] at hholder hobs
  have hne : some inner.place ≠ some outer.place := fun he =>
    Nat.succ_ne_self _ (Option.some.inj he)
  have houter : state.shared.holder? outer.place = some (l.holder r) := by
    have hplace : outer.place ∈ placesOf (some inner.place) [some outer, some inner] := by
      simp [placesOf]
    rw [hholder _ hplace, hheld, Option.map_some, if_neg hne]
  have hinner : state.shared.holder? inner.place = some holder := by
    rw [hholder _ List.mem_cons_self, hheld', Option.map_some, if_pos rfl]
  have hclosed : (Future.closingOrder [some outer, some inner] final).map (fun span =>
      span.close (state.shared.holderAt span.place) final) =
        closed.map fun (span, held) => span.close held final := by
    cases final with
    | none => simp [Future.closingOrder, closed, Shared.holderAt, houter, hinner]
    | some outcome => simp [Future.closingOrder, closed, Shared.holderAt, houter, hinner]
  have hsampled : ∀ p ∈ closed, p.1.sampled = (l.carried r).all (·.sampled) := by
    have houter : outer.sampled = (l.carried r).all (·.sampled) := l.span_sampled r _
    have hinner : inner.sampled = (l.carried r).all (·.sampled) := l.within_sampled r _
    unfold closed
    split <;> simp [houter, hinner]
  refine ⟨houter, hinner, report, hobs.trans (congrArg some ?_), hyield⟩
  rw [← Observation.closing_all closed hsampled, ← hclosed]

/-- **Two layers, two spans.** Under the same layer twice every call has an outer and an inner span,
opened with the same attributes, of which the request carries the inner one's holder to the service.
Both are open in exactly the states from the call up to the step that ends it. That step closes both,
the inner one first if the future yields an outcome and the outer one first if it is dropped, logs one
event for each, and reports both or neither. No other step is eventful. No other context is attached
when a call is made, so nothing is around the outer span and the outer span alone around the inner one.
Where callers send no context, the outer span is a root and the parent of the inner one is the span of
the call that is as deep as the outer one. Offers reach the inner span's holder alone: the outer span
is named by the method and has no route, and in everything but the route the two are reported
alike. -/
theorem nested_spans (l : SingleLayer) (steps : List Step) :
    (∀ i name request, steps[i]? = some (.call name request) →
      let outer := outerAt l steps i request
      let inner := innerAt l steps i request
      let before := (State.after l.twice {} (steps.take i)).shared.brought request.route
      let called := (callAt l.twice steps i request).1
      (called.future = [some outer, some inner] ∧ called.place = some inner.place ∧
        outer ≠ inner ∧ inner.attributes = outer.attributes) ∧
      (before.attached = [] ∧
        outer = l.twice.opened ⟨l.extractor, true⟩ (l.twice.inject request) before ∧
        inner = l.twice.opened ⟨l.extractor, true⟩ outer.request
          ((before.keep (l.holder request)).attach outer.context) ∧
        outer.depth = 0 ∧ inner.depth = 1 ∧
        (l.propagators = [] → outer.parent = .root ∧
          inner.parent = .enclosing outer.depth none outer.sampled)) ∧
      (∀ m ≤ steps.length, ∀ span ∈ [outer, inner],
        ((State.after l.twice {} (steps.take m)).IsOpen span ↔
          i < m ∧ ∀ e ∈ endOf? steps i, m ≤ e.1)) ∧
      ∀ j final, endOf? steps i = some (j, final) →
        let state := State.after l.twice {} (steps.take j)
        let holder := offeredBy name (l.holder request) ((steps.take j).drop (i + 1))
        let closed := if final.isSome then [(inner, holder), (outer, l.holder request)]
          else [(outer, l.holder request), (inner, holder)]
        let whole := outer.report (l.holder request) final
        let routed := inner.report holder final
        (∃ report, (run l.twice [] steps)[j]? = some
            ⟨if (l.carried request).all (·.sampled) then
                closed.map fun (span, held) => span.report held final else [],
              closed.map fun (span, _) => span.log final, report⟩ ∧
          report.yielded = final) ∧
        (∀ span ∈ [outer, inner], (span.log final).level = .debug ∧
          (span.log final).message = (endMessage final).toList ∧
          ("method".toList, .shown request.method) ∈ (span.log final).fields ∧
          ("path".toList, .quoted request.uri.path) ∈ (span.log final).fields) ∧
        (state.shared.holder? outer.place = some (l.holder request) ∧
          state.shared.holder? inner.place = some holder) ∧
        (whole.name =
            (if l.extractor.knows request.method then request.method else "HTTP".toList) ∧
          routed.name = whole.name ++ holder.route.elim [] (' ' :: ·) ∧
          Attribute.routes whole.attributes = []) ∧
        ((l.extractor.onStart (l.facts request) ++ l.extractor.onEnd (responseOf final)
            (errorOf final) holder.route).length ≤ l.attributeLimit →
          Attribute.routes routed.attributes =
            (holder.route.map fun route => ⟨.route, .text route⟩).toList) ∧
        (whole.status = routed.status ∧
          ∀ key, key ≠ "http.route".toList →
            whole.attributes.filter (·.key.name = key) =
              routed.attributes.filter (·.key.name = key)) ∧
        (whole.depth = 0 ∧ routed.depth = 1) ∧
        (l.propagators = [] → whole.parent = .root ∧
          routed.parent = .enclosing whole.depth none outer.sampled)) ∧
    (∀ (j : Nat) observation, (run l.twice [] steps)[j]? = some observation →
      (∀ i final, endOf? steps i ≠ some (j, final)) → observation.Uneventful) ∧
    ∀ i i' j final final', endOf? steps i = some (j, final) → endOf? steps i' = some (j, final') →
      i = i' := by
  refine ⟨fun i name request hi => ?_,
    fun j observation hj hnone => State.uneventful_of_endOf? l.twice hj hnone,
    fun _ _ _ _ _ h h' => endOf?_inj h h'⟩
  intro outer inner before called
  obtain ⟨hcalled, -, -⟩ := callAt_twice l steps i request
  have hparents : l.propagators = [] →
      outer.parent = .root ∧ inner.parent = .enclosing outer.depth none outer.sampled := by
    intro hnone
    have hcarried := SingleLayer.carried_eq_none hnone request
    exact ⟨SingleLayer.span_parent hcarried _, SingleLayer.within_parent hcarried _⟩
  have hatt : before.attached = [] :=
    (Shared.brought_attached _ _).trans (State.private_after l.twice (steps.take i)).attached
  refine ⟨⟨?_, ?_, ?_, rfl⟩, ⟨hatt, (l.opened_outer request hatt).symm,
    (l.opened_inner request hatt).symm, rfl, rfl, hparents⟩, fun m hm span hspan => ?_,
    fun j final hend => ?_⟩
  · exact congrArg Service.Called.future hcalled
  · exact congrArg Service.Called.place hcalled
  · exact fun he => Nat.succ_ne_self _ (congrArg OpenSpan.place he).symm
  · refine State.isOpen_span_iff l.twice hi hm ?_
    rw [hcalled]
    exact hspan
  · intro state holder closed whole routed
    obtain ⟨houter, hinner, hobserved⟩ := observed_of_endOf?_twice l hi hend
    have hmade := l.holder_madeFor request
    have hmade' : holder.MadeFor (l.extractor.spanMethod (l.facts request)) :=
      offeredBy_madeFor name _ hmade
    obtain ⟨hmethod, huri⟩ := l.service.inject_target request
    have hwhole : whole.name = l.extractor.spanMethod (l.facts request) := by
      refine (l.report_name request outer.place hmade final).trans ?_
      rw [hmade.spanName_eq.2]
      exact List.append_nil _
    have hrouted : routed.name = whole.name ++ holder.route.elim [] (' ' :: ·) := by
      rw [hwhole, ← hmade'.spanName_eq.2]
      exact l.report_name request outer.place hmade' final
    refine ⟨hobserved, fun span hspan => ?_, ⟨houter, hinner⟩, ⟨?_, hrouted, ?_⟩, fun hlength => ?_,
      ⟨rfl, fun key hkey => ?_⟩, ⟨rfl, rfl⟩, fun hnone => ?_⟩
    · have hrequest : span.request.method = request.method ∧ span.request.uri = request.uri := by
        rcases List.mem_cons.1 hspan with rfl | hspan
        · exact ⟨hmethod, huri⟩
        · rw [List.mem_singleton.1 hspan]
          exact ⟨hmethod, huri⟩
      rw [← hrequest.1, ← hrequest.2]
      exact log_tells span final
    · rw [hwhole, Extractor.spanMethod, l.facts_method]
    · exact l.routes_report_fresh request outer.place final
    · have hattributes := l.report_attributes request outer.place holder final hlength
      refine (congrArg Attribute.routes hattributes).trans ?_
      rw [Attribute.routes_append, Extractor.routes_onStart, Extractor.routes_onEnd,
        hmade'.nonEmpty?_route]
      rfl
    · exact l.filter_report_attributes request outer.place _ _ final hkey
    · obtain ⟨hroot, hwithin⟩ := hparents hnone
      exact ⟨congrArg Parent.reported hroot, congrArg Parent.reported hwithin⟩

end Session

end ServerTelemetry
