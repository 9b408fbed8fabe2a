import ServerTelemetry.Proofs.Session.Private

/-!
# Calls are isolated

What is observed of a call in a session is what would be observed of it if it were alone, however its
steps are interleaved with those of other calls (`call_observed_alone`). The session that has the
call alone keeps its holders at other places, so the two are compared up to that (`Alike`): steps
about other calls keep the two sessions alike (`Alike.other`), steps about the call itself are
observed alike and keep them alike as well (`Alike.own`).
-/

namespace ServerTelemetry

namespace Session

/-! ## The part of a session that is about one call -/

/-- The steps of a session, each with what is observed of it. -/
def State.transcript (service : Service) (t : State) (steps : List Step) :
    List (Step × Observation) :=
  steps.zip (t.run service steps)

/-- The part of a transcript that is about the call a name has just been given to: the steps of that
name up to the next call that is given it. For the call, the latter is a drop. -/
def ofCall (name : Text) : List (Step × Observation) → List (Step × Observation)
  | [] => []
  | (step, observation) :: rest =>
    if step.name? = some name then
      if step.isCall then [(.drop name, { observation with report := .none })]
      else (step, observation) :: ofCall name rest
    else ofCall name rest

theorem ofCall_other {n : Text} {s : Step} (h : s.name? ≠ some n) (o : Observation)
    (rest : List (Step × Observation)) : ofCall n ((s, o) :: rest) = ofCall n rest := by
  rw [ofCall, if_neg h]

theorem ofCall_own {n : Text} {s : Step} (h : s.name? = some n) (hs : s.isCall = false)
    (o : Observation) (rest : List (Step × Observation)) :
    ofCall n ((s, o) :: rest) = (s, o) :: ofCall n rest := by
  rw [ofCall, if_pos h, hs, if_neg Bool.false_ne_true]

theorem ofCall_again (n : Text) (r : Http.Request) (o : Observation)
    (rest : List (Step × Observation)) :
    ofCall n ((.call n r, o) :: rest) = [(.drop n, { o with report := .none })] := by
  simp only [ofCall, Step.name?, Step.isCall, ↓reduceIte]

namespace State

theorem transcript_cons (service : Service) (t : State) (s : Step) (steps : List Step) :
    t.transcript service (s :: steps) =
      (s, (t.step service s).2) :: (t.step service s).1.transcript service steps := rfl

theorem transcript_append (service : Service) (t : State) (a b : List Step) :
    t.transcript service (a ++ b) =
      t.transcript service a ++ (t.after service a).transcript service b := by
  rw [transcript, run_append, List.zip_append (run_length service t a).symm]
  rfl

/-! ## Two sessions that are alike to one call -/

/-- The call with this name is the same in both sessions, only that in one its holders are kept `d`
places further on. -/
structure Alike (d : Nat) (n : Text) (t v : State) : Prop where
  left : Private t
  right : Private v
  call : ∃ c, v.calls.find? n = some c ∧ t.calls.find? n = some (c.moved d) ∧
    ∀ p ∈ c.places, t.shared.holder? (p + d) = v.shared.holder? p

/-- The holder on the request the handler received holds the same. -/
theorem holder_moved {c : Call} {d : Nat} {w u : Shared}
    (hagree : ∀ p ∈ c.places, w.holder? (p + d) = u.holder? p) :
    (c.moved d).place.bind w.holder? = c.place.bind u.holder? := by
  cases hp : c.place with
  | none => simp only [Call.moved, hp, Option.map_none, Option.bind_none]
  | some place =>
    simp only [Call.moved, hp, Option.map_some, Option.bind_some]
    exact hagree place (List.mem_append_left _ (Option.mem_toList.2 hp))

/-- The spans of the call are closed alike. -/
theorem closed_moved {c : Call} {d : Nat} {w u : Shared} (outcome : Option Outcome)
    (hagree : ∀ p ∈ c.places, w.holder? (p + d) = u.holder? p) :
    ((c.moved d).future.spans.map fun s => s.close (w.holderAt s.place) outcome) =
      c.future.spans.map fun s => s.close (u.holderAt s.place) outcome := by
  simp only [Call.moved, Future.spans_moved, List.map_map]
  refine List.map_congr_left fun s hs => ?_
  have hplace : s.place ∈ c.places :=
    List.mem_append_right _ (List.mem_map.2 ⟨s, hs, rfl⟩)
  change (s.moved d).close (w.holderAt (s.place + d)) outcome = _
  rw [OpenSpan.close_moved, Shared.holderAt, Shared.holderAt, hagree _ hplace]

namespace Alike

variable {d : Nat} {n : Text} {t v : State}

/-- Putting the call back with a hold of no more places than it had. -/
theorem put_back (h : Alike d n t v) {c c' : Call} (hv : v.calls.find? n = some c)
    (ht : t.calls.find? n = some (c.moved d))
    (hagree : ∀ p ∈ c.places, t.shared.holder? (p + d) = v.shared.holder? p)
    (hsub : ∀ p ∈ c'.places, p ∈ c.places) :
    Alike d n (t.put n (c'.moved d)) (v.put n c') := by
  refine ⟨h.left.put_back ht fun p hp => ?_, h.right.put_back hv hsub, c', ?_, ?_, ?_⟩
  · rw [Call.places_moved, List.mem_map] at hp ⊢
    obtain ⟨q, hq, rfl⟩ := hp
    exact ⟨q, hsub q hq, rfl⟩
  · exact find?_put_self ..
  · exact find?_put_self ..
  · exact fun p hp => hagree p (hsub p hp)

/-- Steps about other calls keep the sessions alike. -/
theorem other (h : Alike d n t v) (service : Service) {s : Step} (hs : s.name? ≠ some n) :
    Alike d n (t.step service s).1 v := by
  obtain ⟨c, hv, ht, hagree⟩ := h.call
  refine ⟨h.left.step service s, h.right, c, hv, (step_find?_of_ne service t hs).trans ht,
    fun p hp => ?_⟩
  have hmem : p + d ∈ (c.moved d).places := by
    rw [Call.places_moved]
    exact List.mem_map.2 ⟨p, hp, rfl⟩
  rw [h.left.holder?_step service hs ht hmem]
  exact hagree p hp

/-- An offer to the call comes to the same in both sessions and keeps them alike. -/
theorem offer (h : Alike d n t v) {c : Call} (hv : v.calls.find? n = some c)
    (ht : t.calls.find? n = some (c.moved d))
    (hagree : ∀ p ∈ c.places, t.shared.holder? (p + d) = v.shared.holder? p)
    (source : RouteSource) (route : Text) :
    (t.offer (c.moved d) source route).2 = (v.offer c source route).2 ∧
      Alike d n (t.offer (c.moved d) source route).1 (v.offer c source route).1 := by
  refine ⟨?_, h.left.offer _ source route, h.right.offer c source route, c, ?_, ?_, ?_⟩
  · rw [offer_observed, offer_observed, holder_moved hagree]
  · rw [offer_calls]
    exact hv
  · rw [offer_calls]
    exact ht
  · intro p hp
    cases hplace : c.place with
    | none =>
      simp only [State.offer, Call.moved, hplace, Option.map_none]
      exact hagree p hp
    | some place =>
      simp only [State.offer, Call.moved, hplace, Option.map_some, Shared.holder?_offer,
        hagree p hp, Nat.add_right_cancel_iff]

/-- **Steps about the call are observed alike** in both sessions and keep them alike. -/
theorem own (h : Alike d n t v) (service : Service) {s : Step} (hs : s.name? = some n)
    (hcall : s.isCall = false) :
    (t.step service s).2 = (v.step service s).2 ∧
      Alike d n (t.step service s).1 (v.step service s).1 := by
  obtain ⟨c, hv, ht, hagree⟩ := h.call
  have hcontext : (c.moved d).future.context t.shared.current =
      c.future.context v.shared.current := by
    simp only [Call.moved, Future.context_moved, Shared.current, h.left.attached, h.right.attached]
  cases s with
  | ready state => cases hs
  | call m r => cases hcall
  | offer m source route =>
    obtain rfl : m = n := Option.some.inj hs
    simp only [step, ht, hv]
    exact h.offer hv ht hagree source route
  | settle m o =>
    obtain rfl : m = n := Option.some.inj hs
    simp only [step, ht, hv]
    have hsub : ∀ p ∈ Call.places { c with outcome := some o }, p ∈ c.places := fun p hp => hp
    exact ⟨trivial, h.put_back hv ht hagree hsub⟩
  | poll m =>
    obtain rfl : m = n := Option.some.inj hs
    simp only [step, ht, hv]
    cases hlive : c.live with
    | false =>
      rw [poll_dead t m (c := c.moved d) hlive, poll_dead v m hlive]
      exact ⟨rfl, h⟩
    | true =>
      cases hout : c.outcome with
      | none =>
        rw [poll_pending t m (c := c.moved d) hlive hout, poll_pending v m hlive hout, hcontext]
        exact ⟨rfl, h.put_back hv ht hagree fun p hp => hp⟩
      | some o =>
        rw [poll_ready t m (c := c.moved d) hlive hout, poll_ready v m hlive hout, hcontext,
          List.map_reverse, List.map_reverse, closed_moved (some o) hagree, Call.ended_moved]
        exact ⟨rfl, h.put_back hv ht hagree fun p hp => Call.places_ended hp⟩
  | drop m =>
    obtain rfl : m = n := Option.some.inj hs
    simp only [step, ht, hv]
    rw [drop_eq, drop_eq, closed_moved none hagree, Call.ended_moved]
    exact ⟨rfl, h.put_back hv ht hagree fun p hp => Call.places_ended hp⟩

/-- When the name is given to another call, the call is closed as if it were dropped. -/
theorem again (h : Alike d n t v) (service : Service) (r : Http.Request) :
    { (t.step service (.call n r)).2 with report := .none } = (v.step service (.drop n)).2 := by
  obtain ⟨c, hv, ht, hagree⟩ := h.call
  obtain ⟨new, hnew⟩ := service.call_shared r t.shared
  have hagree' : ∀ p ∈ c.places, (service.call r t.shared).2.holder? (p + d) =
      v.shared.holder? p := by
    intro p hp
    have hlt : p + d < t.shared.next := by
      refine h.left.place_lt ht ?_
      rw [Call.places_moved]
      exact List.mem_map.2 ⟨p, hp, rfl⟩
    rw [hnew, ← hagree p hp]
    exact List.getElem?_append_left hlt
  simp only [step, hv, call_eq, ht, Option.toList_some, List.flatMap_cons, List.flatMap_nil,
    List.append_nil, closed_moved none hagree', drop_eq]
  rfl

end Alike

/-- A call is the same in a session under way as in one that begins with it. -/
theorem Private.alike {t : State} (h : Private t) (service : Service) (n : Text)
    (r : Http.Request) :
    (t.step service (.call n r)).2.report = (State.step service {} (.call n r)).2.report ∧
      Alike t.shared.next n (t.step service (.call n r)).1
        (State.step service {} (.call n r)).1 := by
  obtain ⟨new, ht, hv⟩ := service.call_moved r (d := t.shared.next) (w := t.shared) (v := {})
    h.attached (Nat.zero_add _).symm
  have hagree : ∀ p ∈ (service.call r {}).1.places,
      (service.call r t.shared).2.holder? (p + t.shared.next) = (service.call r {}).2.holder? p := by
    intro p _
    rw [ht, hv]
    simp only [Shared.holder?, Shared.next, List.nil_append]
    rw [List.getElem?_append_right (Nat.le_add_left _ _), Nat.add_sub_cancel]
  have hcalled : (service.call r t.shared).1 = (service.call r {}).1.moved t.shared.next :=
    congrArg Prod.fst ht
  have hholder : ((service.call r {}).1.moved t.shared.next).place.bind
      (service.call r t.shared).2.holder? =
        (service.call r {}).1.place.bind (service.call r {}).2.holder? :=
    holder_moved (c := .start (service.call r {}).1) hagree
  refine ⟨?_, h.step service _, Private.initial.step service _, .start (service.call r {}).1,
    ?_, ?_, hagree⟩
  · simp only [State.step, call_eq, hcalled, hholder]
    rfl
  · simp only [State.step, call_eq]
    exact find?_put_self ..
  · simp only [State.step, call_eq, hcalled]
    exact find?_put_self ..

/-! ## The whole session -/

/-- Of two sessions that are alike to a call, the one that is left with the steps about the call shows
what the other shows of it. -/
theorem Alike.transcript (service : Service) {d : Nat} {n : Text} :
    ∀ (steps : List Step) {t v : State}, Alike d n t v →
      v.transcript service ((ofCall n (t.transcript service steps)).map Prod.fst) =
        ofCall n (t.transcript service steps) := by
  intro steps
  induction steps with
  | nil => exact fun _ => rfl
  | cons s steps ih =>
    intro t v h
    rw [transcript_cons]
    -- A step about the call is taken in both sessions, any other step in the first alone.
    by_cases hs : s.name? = some n
    · cases s with
      | call m r =>
        obtain rfl : m = n := Option.some.inj hs
        rw [ofCall_again, h.again service r]
        rfl
      | _ =>
        obtain ⟨hobs, hnext⟩ := h.own service hs rfl
        rw [ofCall_own hs rfl, List.map_cons, transcript_cons, ih hnext, hobs]
    · rw [ofCall_other hs]
      exact ih (h.other service hs)

end State

/-- What there is of the call with a name: its state and what its holders hold. -/
def State.view (t : State) (name : Text) : Option (Call × List (Option RouteHolder)) :=
  (t.calls.find? name).map fun c => (c, c.places.map t.shared.holder?)

/-- A step about one call changes nothing of the others. -/
theorem State.Private.view_step {t : State} (h : Private t) (service : Service) {s : Step}
    {n : Text} (hs : s.name? ≠ some n) : (t.step service s).1.view n = t.view n := by
  rw [view, view, step_find?_of_ne service t hs]
  cases hc : t.calls.find? n with
  | none => rfl
  | some c =>
    have hholders : c.places.map (t.step service s).1.shared.holder? =
        c.places.map t.shared.holder? :=
      List.map_congr_left fun p hp => h.holder?_step service hs hc hp
    rw [Option.map_some, Option.map_some, hholders]

/-- **Calls are isolated.** Whatever happened earlier and however its steps are interleaved with
those of others later, a call is observed as in the session that has no other: the handler receives
the same, and each of its steps shows, logs and reports the same. In no state a session comes to is
there a context left attached, and a step changes nothing of the calls it is not about, with all that
their holders hold. -/
theorem call_observed_alone (service : Service) (earlier later : List Step) (name : Text)
    (request : Http.Request) :
    (∃ o rest,
      State.transcript service {} (earlier ++ .call name request :: later) =
        State.transcript service {} earlier ++ (.call name request, o) :: rest ∧
      State.transcript service {} (.call name request :: (ofCall name rest).map Prod.fst) =
        (.call name request, .quiet o.report) :: ofCall name rest) ∧
    (State.after service {} earlier).shared.attached = [] ∧
    ∀ (step : Step) (other : Text), step.name? = some other ∨
      (State.after service {} (earlier ++ [step])).view other =
        (State.after service {} earlier).view other := by
  have hprivate := State.private_after service earlier
  obtain ⟨hreport, halike⟩ := hprivate.alike service name request
  let t := State.after service {} earlier
  refine ⟨⟨(t.step service (.call name request)).2,
    (t.step service (.call name request)).1.transcript service later, ?_, ?_⟩, hprivate.attached,
    fun step other => ?_⟩
  · rw [State.transcript_append, State.transcript_cons]
  · rw [State.transcript_cons, halike.transcript service later, hreport]
    rfl
  · rw [State.after_append]
    exact (Decidable.em (step.name? = some other)).imp_right (hprivate.view_step service)

end Session

end ServerTelemetry
