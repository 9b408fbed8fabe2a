import ServerTelemetry.Proofs.Extractor.Route
import ServerTelemetry.Proofs.Session.Lifecycle

/-!
# What a reported span says

The span of a call under a single layer is reported with what the request and the outcome say and with
the route its holder holds when the call ends (`reported_span`). The holder is the call's own, made
when the call arrives, and holds a route once an offer to the call has changed it
(`offeredBy_route_isSome`). Name and attributes both take the route from the holder, so they agree.
-/

namespace ServerTelemetry

/-! ## The parts of the span -/

/-- The response of a call that ended like this. -/
def responseOf : Option Outcome → Option ResponseFacts
  | some (.response response) => some response.facts
  | _ => none

/-- The error of a call that ended like this. -/
def errorOf : Option Outcome → Option Text
  | some (.failure error) => some error
  | _ => none

theorem OpenSpan.endAttributes_eq (s : OpenSpan) (route : Option Text) (outcome : Option Outcome) :
    s.endAttributes route outcome =
      s.extractor.onEnd (responseOf outcome) (errorOf outcome) route := by
  cases outcome with
  | none => rfl
  | some outcome => cases outcome <;> rfl

namespace SingleLayer

/-- What may be asked of a request while no route is known, whatever holder it came with. -/
def facts (l : SingleLayer) (r : Http.Request) : RequestFacts :=
  Http.Request.facts { l.service.inject r with route := none }

theorem facts_method (l : SingleLayer) (r : Http.Request) : (l.facts r).method = r.method :=
  (l.service.inject_target r).1

theorem holder_madeFor (l : SingleLayer) (r : Http.Request) :
    (l.holder r).MadeFor (l.extractor.spanMethod (l.facts r)) :=
  .new _

/-- The name a span is reported with is its holder's. -/
theorem report_name (l : SingleLayer) (r : Http.Request) (place : Nat) {h : RouteHolder}
    (hm : h.MadeFor (l.extractor.spanMethod (l.facts r))) (final : Option Outcome) :
    ((l.span r place).report h final).name = h.spanName := by
  cases hr : h.route with
  | none =>
    have hname : (l.span r place).name = h.spanName := by
      rw [hm.spanName_eq.1, hr]
      rfl
    simp only [OpenSpan.report, hr, Option.isSome_none, Bool.false_eq_true, ↓reduceIte, hname]
  | some route => simp only [OpenSpan.report, hr, Option.isSome_some, ↓reduceIte]

/-- A span is reported with all its attributes if they are not too many. -/
theorem report_attributes (l : SingleLayer) (r : Http.Request) (place : Nat) (h : RouteHolder)
    (final : Option Outcome)
    (hlength : (l.extractor.onStart (l.facts r) ++
      l.extractor.onEnd (responseOf final) (errorOf final) h.route).length ≤ l.attributeLimit) :
    ((l.span r place).report h final).attributes =
      l.extractor.onStart (l.facts r) ++
        l.extractor.onEnd (responseOf final) (errorOf final) h.route := by
  simp only [OpenSpan.report, OpenSpan.endAttributes_eq]
  exact List.take_of_length_le hlength

end SingleLayer

namespace Session

/-! ## The route of a call -/

theorem offeredBy_madeFor (n : Text) (steps : List Step) {h : RouteHolder} {method : Text}
    (hm : h.MadeFor method) : (offeredBy n h steps).MadeFor method := by
  induction steps generalizing h with
  | nil => exact hm
  | cons s steps ih =>
    have hstep : (s.offered n h).MadeFor method := by
      cases s with
      | offer m source route =>
        rw [Step.offered]
        split
        · exact hm.offer source route
        · exact hm
      | _ => exact hm
    exact ih hstep

/-- A route is held after a step if one was held before it or the step offers a route that is not
declined. -/
theorem offered_route_isSome (n : Text) (s : Step) (h : RouteHolder) :
    (s.offered n h).route.isSome ↔
      h.route.isSome ∨ ∃ source route, s = .offer n source route ∧
        (h.offer source route).2 = true := by
  by_cases hs : ∃ source route, s = .offer n source route
  · obtain ⟨source, route, rfl⟩ := hs
    rw [Step.offered, if_pos rfl, h.offer_route_isSome, Bool.or_eq_true]
    refine or_congr_right ⟨fun hchanged => ⟨source, route, rfl, hchanged⟩, ?_⟩
    rintro ⟨_, _, he, hchanged⟩
    cases he
    exact hchanged
  · have hsame : s.offered n h = h := by
      cases s with
      | offer m source route => exact if_neg fun he => hs ⟨source, route, by rw [he]⟩
      | _ => rfl
    rw [hsame]
    refine ⟨Or.inl, fun hor => hor.resolve_right ?_⟩
    rintro ⟨source, route, he, -⟩
    exact hs ⟨source, route, he⟩

/-- A route is held after some steps if one was held before them or one of them offered a route that
was not declined. -/
theorem offeredBy_route_isSome (n : Text) (steps : List Step) (h : RouteHolder) :
    (offeredBy n h steps).route.isSome ↔
      h.route.isSome ∨ ∃ (k : Nat) (source : RouteSource) (route : Text),
        steps[k]? = some (.offer n source route) ∧
        ((offeredBy n h (steps.take k)).offer source route).2 = true := by
  induction steps generalizing h with
  | nil =>
    refine ⟨Or.inl, fun hor => hor.resolve_right ?_⟩
    rintro ⟨k, source, route, hk, -⟩
    cases hk
  | cons s steps ih =>
    refine (ih (s.offered n h)).trans ?_
    rw [offered_route_isSome, or_assoc]
    refine or_congr_right ?_
    constructor
    · rintro (⟨source, route, rfl, hchanged⟩ | ⟨k, source, route, hk, hchanged⟩)
      · exact ⟨0, source, route, rfl, hchanged⟩
      · exact ⟨k + 1, source, route, hk, hchanged⟩
    · rintro ⟨k, source, route, hk, hchanged⟩
      cases k with
      | zero => exact Or.inl ⟨source, route, Option.some.inj hk, hchanged⟩
      | succ k => exact Or.inr ⟨k, source, route, hk, hchanged⟩

/-- An offer to a call under way is answered by the holder of the call. -/
theorem report_offer (l : SingleLayer) {steps : List Step} {i k : Nat} {n : Text}
    {r : Http.Request} {source : RouteSource} {route : Text} (hi : steps[i]? = some (.call n r))
    (hik : i < k) (hnone : endOf? (steps.take k) i = none)
    (hk : steps[k]? = some (.offer n source route)) :
    ((run l.service [] steps)[k]?).map (·.report) =
      some (.offered
        ((offeredBy n (l.holder r) ((steps.take k).drop (i + 1))).offer source route).2) := by
  have hcall : (steps.take k)[i]? = some (.call n r) := by
    rw [List.getElem?_take_of_lt hik, hi]
  have hunder := State.underWay_of_endOf? l hcall hnone
  rw [run, State.getElem?_run, hk]
  simp only [Option.map_some, State.step, hunder.call, State.offer_observed, Option.bind_some,
    hunder.holder, Option.getD_some]
  rfl

/-- **A route is held when a call ends if and only if an offer to the call changed the route.** -/
theorem route_isSome_iff (l : SingleLayer) {steps : List Step} {i j : Nat} {n : Text}
    {r : Http.Request} {final : Option Outcome} (hi : steps[i]? = some (.call n r))
    (hend : endOf? steps i = some (j, final)) :
    (offeredBy n (l.holder r) ((steps.take j).drop (i + 1))).route.isSome ↔
      ∃ (k : Nat) (source : RouteSource) (route : Text), i < k ∧ k < j ∧
        steps[k]? = some (.offer n source route) ∧
        ((run l.service [] steps)[k]?).map (·.report) = some (.offered true) := by
  obtain ⟨_, _, _, -, hij, hj, -⟩ := endOf?_some hend
  obtain ⟨hlt, -⟩ := List.getElem?_eq_some_iff.1 hj
  have hnone : ∀ k, i < k → k < j → endOf? (steps.take k) i = none := by
    intro k hik hkj
    refine (endOf?_take hi hik (by omega)).2 fun e he => ?_
    obtain rfl := Option.some.inj (hend.symm.trans he)
    exact Nat.le_of_lt hkj
  have hpart : ∀ k, i + 1 + k ≤ j →
      ((steps.take j).drop (i + 1)).take k = (steps.take (i + 1 + k)).drop (i + 1) := by
    intro k hk
    rw [List.drop_take, List.drop_take, List.take_take, Nat.add_sub_cancel_left,
      Nat.min_eq_left (by omega)]
  have hfresh : ¬ (l.holder r).route.isSome := Bool.false_ne_true
  rw [offeredBy_route_isSome, or_iff_right hfresh]
  constructor
  · rintro ⟨k, source, route, hk, hchanged⟩
    rw [List.getElem?_drop] at hk
    have hkj : i + 1 + k < j := by
      obtain ⟨hlen, -⟩ := List.getElem?_eq_some_iff.1 hk
      exact Nat.lt_of_lt_of_le hlen (List.length_take_le _ _)
    rw [List.getElem?_take_of_lt hkj] at hk
    rw [hpart k (Nat.le_of_lt hkj)] at hchanged
    refine ⟨i + 1 + k, source, route, by omega, hkj, hk, ?_⟩
    rw [report_offer l hi (by omega) (hnone _ (by omega) hkj) hk, hchanged]
  · rintro ⟨k, source, route, hik, hkj, hk, hreport⟩
    rw [report_offer l hi hik (hnone k hik hkj) hk] at hreport
    refine ⟨k - (i + 1), source, route, ?_, ?_⟩
    · rw [List.getElem?_drop, Nat.add_sub_cancel' hik, List.getElem?_take_of_lt hkj, hk]
    · rw [hpart _ (by omega), Nat.add_sub_cancel' hik]
      exact Report.offered.inj (Option.some.inj hreport)

/-- What follows a step does not matter to what is observed of it. -/
theorem run_take_append (service : Service) {steps : List Step} {j : Nat} (hj : j < steps.length)
    (later : List Step) :
    (run service [] (steps.take (j + 1) ++ later))[j]? =
      (run service [] (steps.take (j + 1)))[j]? := by
  rw [run, run, State.run_append]
  refine List.getElem?_append_left ?_
  rw [State.run_length, List.length_take_of_le hj]
  exact Nat.lt_succ_self j

/-- **A reported span says what the request and the outcome say, and the route that is held when the
call ends.** The route is the one the holder on the request holds then, and there is one if and only
if an offer to the call changed the route. The attributes, if they are not too many, are those of the
request without a route and those of the outcome with it, so the route is among them once if there is
one. The name is the one that the extractor gives with the route and the holder gives by itself: the
method, if it is known, with the route. Whatever happens afterwards, offers among it, the end of the
call is observed as it was. -/
theorem reported_span (l : SingleLayer) (steps : List Step) (i j : Nat) (name : Text)
    (request : Http.Request) (final : Option Outcome)
    (hcall : steps[i]? = some (.call name request)) (hend : endOf? steps i = some (j, final)) :
    let state := State.after l.service {} (steps.take j)
    let holder := offeredBy name (l.holder request) ((steps.take j).drop (i + 1))
    let attributes := l.extractor.onStart (l.facts request) ++
      l.extractor.onEnd (responseOf final) (errorOf final) holder.route
    ((state.calls.find? name).bind (·.place)).bind state.shared.holder? = some holder ∧
    (holder.route.isSome ↔ ∃ (k : Nat) (source : RouteSource) (route : Text), i < k ∧ k < j ∧
      steps[k]? = some (.offer name source route) ∧
      ((run l.service [] steps)[k]?).map (·.report) = some (.offered true)) ∧
    ∃ span event report,
      (∀ later, (run l.service [] (steps.take (j + 1) ++ later))[j]? =
        some ⟨if (l.carried request).all (·.sampled) then [span] else [], [event], report⟩) ∧
      (attributes.length ≤ l.attributeLimit →
        span.attributes = attributes ∧
        Attribute.routes span.attributes =
          (holder.route.map fun route => ⟨.route, .text route⟩).toList) ∧
      span.name = l.extractor.spanName (l.facts request) holder.route ∧
      span.name = holder.spanName ∧
      span.name = (if l.extractor.knows request.method then request.method else "HTTP".toList) ++
        holder.route.elim [] (' ' :: ·) := by
  intro state holder attributes
  obtain ⟨⟨_, hunder⟩, ⟨report, hobs, -⟩, -⟩ := State.observed_of_endOf? l hcall hend
  obtain ⟨place, hspan⟩ : ∃ place, spanAt l steps i request = l.span request place := ⟨_, rfl⟩
  rw [hspan, Observation.closing_close, l.span_sampled] at hobs
  have hmade : holder.MadeFor (l.extractor.spanMethod (l.facts request)) :=
    offeredBy_madeFor name _ (l.holder_madeFor request)
  have hname : ((l.span request place).report holder final).name = holder.spanName :=
    l.report_name request place hmade final
  refine ⟨?_, route_isSome_iff l hcall hend, (l.span request place).report holder final,
    (l.span request place).log final, report, fun later => ?_, fun hlength => ?_,
    hname.trans hmade.spanName_eq.1, hname, ?_⟩
  · rw [hunder.call]
    exact hunder.holder
  · obtain ⟨_, _, s, -, -, hj, -⟩ := endOf?_some hend
    obtain ⟨hlt, -⟩ := List.getElem?_eq_some_iff.1 hj
    rw [run_take_append l.service hlt, ← run_take_append l.service hlt (steps.drop (j + 1)),
      List.take_append_drop]
    exact hobs
  · have hattributes : ((l.span request place).report holder final).attributes = attributes :=
      l.report_attributes request place holder final hlength
    refine ⟨hattributes, ?_⟩
    rw [hattributes, Attribute.routes_append, Extractor.routes_onStart, Extractor.routes_onEnd,
      hmade.nonEmpty?_route]
    rfl
  · rw [hname, hmade.spanName_eq.2, Extractor.spanMethod, l.facts_method]

/-- A response to a request that was routed on the way. -/
theorem reported_span_routed :
    let request := requestWith "host" "example.com"
    let steps : List Step :=
      [.call "a".toList request, .offer "a".toList .router "/users/:id".toList,
        .settle "a".toList (.response ⟨200, [], []⟩), .poll "a".toList]
    ∃ span event report,
      (run (SingleLayer.mk [] none .standard 128).service [] steps)[3]? =
        some ⟨[span], [event], report⟩ ∧
      span.name = "GET /users/:id".toList ∧
      Attribute.routes span.attributes = [⟨.route, .text "/users/:id".toList⟩] := by
  intro request steps
  obtain ⟨-, -, span, event, report, hobs, hattributes, hname, -⟩ :=
    reported_span ⟨[], none, .standard, 128⟩ steps 0 3 "a".toList request
      (some (.response ⟨200, [], []⟩)) rfl rfl
  exact ⟨span, event, report, hobs [], hname.trans (by decide), (hattributes (by decide)).2⟩

end Session

end ServerTelemetry
