import ServerTelemetry.Proofs.Session.Endings
import ServerTelemetry.Proofs.Session.Private

/-!
# Calls under way

A step about a call either leaves its spans open, and all that happens is that the handler settles on an
outcome or that a route is offered, or it ends the call and closes them all (`step_own`). Steps about a
call that has ended come to nothing (`Idle.own`). Which spans are open changes with such ends and with
new calls alone (`isOpen_of_step`).
-/

namespace ServerTelemetry

/-! ## What is observed of a step that ends nothing -/

/-- What a future yielded. -/
def Report.yielded : Report → Option Outcome
  | polled outcome _ => outcome
  | _ => Option.none

/-- Nothing ended: no span is reported, no event is logged and no future yielded. -/
structure Observation.Uneventful (o : Observation) : Prop where
  spans : o.spans = []
  logs : o.logs = []
  yielded : o.report.yielded = none

theorem Observation.uneventful_quiet {r : Report} (h : r.yielded = none) :
    (Observation.quiet r).Uneventful :=
  ⟨rfl, rfl, h⟩

theorem Observation.uneventful_closing {r : Report} (h : r.yielded = none) :
    (Observation.closing [] r).Uneventful :=
  ⟨rfl, rfl, h⟩

namespace Session.State

/-! ## Steps about one call -/

/-- A step about a call that is not there does nothing. -/
theorem step_nobody (service : Service) {t : State} {s : Step} {n : Text} (hs : s.name? = some n)
    (hcall : s.isCall = false) (hn : t.calls.find? n = none) :
    (t.step service s).1 = t ∧ (t.step service s).2.Uneventful := by
  cases s with
  | ready state => cases hs
  | call m r => cases hcall
  | offer m source route | settle m o | poll m | drop m =>
    obtain rfl : m = n := Option.some.inj hs
    simp only [step, hn]
    exact ⟨trivial, Observation.uneventful_quiet rfl⟩

/-- A step about a call either leaves it be, but for what its handler has to yield, or it ends it and
closes its spans in the order of that end. -/
theorem step_own (service : Service) {t : State} {s : Step} {n : Text} {c : Call}
    (hs : s.name? = some n) (hcall : s.isCall = false) (hc : t.calls.find? n = some c) :
    ((t.step service s).2.Uneventful ∧ (s.ending? n c.outcome = none ∨ c.live = false) ∧
      (t.step service s).1.calls.find? n =
        some { c with outcome := s.settled n c.outcome }) ∨
    (∃ final report, s.ending? n c.outcome = some final ∧ report.yielded = final ∧
      (c.live = true ∨ final = none) ∧
      (t.step service s).2 = .closing ((c.future.closingOrder final).map fun p =>
        p.close (t.shared.holderAt p.place) final) report ∧
      (t.step service s).1.calls.find? n = some c.ended) := by
  cases s with
  | ready state => cases hs
  | call m r => cases hcall
  | offer m source route =>
    obtain rfl : m = n := Option.some.inj hs
    left
    simp only [step, hc, offer_observed, offer_calls]
    exact ⟨Observation.uneventful_quiet rfl, Or.inl rfl, rfl⟩
  | settle m o =>
    obtain rfl : m = n := Option.some.inj hs
    left
    simp only [step, hc, Step.settled, ↓reduceIte]
    exact ⟨Observation.uneventful_quiet rfl, Or.inl rfl, find?_put_self ..⟩
  | poll m =>
    obtain rfl : m = n := Option.some.inj hs
    simp only [step, hc, Step.ending?, ↓reduceIte]
    rcases Bool.eq_false_or_eq_true c.live with hlive | hlive
    · rcases Option.eq_none_or_eq_some c.outcome with hout | ⟨o, hout⟩
      · left
        rw [poll_pending t m hlive hout, hout]
        exact ⟨Observation.uneventful_quiet rfl, Or.inl rfl, hout ▸ find?_put_self ..⟩
      · right
        rw [poll_ready t m hlive hout, hout]
        exact ⟨some o, _, rfl, rfl, Or.inl hlive, rfl, find?_put_self ..⟩
    · left
      rw [poll_dead t m hlive]
      exact ⟨Observation.uneventful_quiet rfl, Or.inr hlive, hc⟩
  | drop m =>
    obtain rfl : m = n := Option.some.inj hs
    right
    simp only [step, hc, Step.ending?, ↓reduceIte, drop_eq]
    exact ⟨none, _, rfl, rfl, Or.inr rfl, rfl, find?_put_self ..⟩

/-- A step about a call offers what it offers to the holder on the call's request and changes no
other holder. -/
theorem holder?_step_own (service : Service) {t : State} {s : Step} {n : Text} {c : Call}
    (hs : s.name? = some n) (hcall : s.isCall = false) (hc : t.calls.find? n = some c) (p : Nat) :
    (t.step service s).1.shared.holder? p =
      (t.shared.holder? p).map fun h => if c.place = some p then s.offered n h else h := by
  have hsame : ∀ {t' : State}, t'.shared = t.shared →
      t'.shared.holder? p = (t.shared.holder? p).map fun h => if c.place = some p then h else h := by
    intro t' ht
    simp only [ht, ite_self, Option.map_id']
  cases s with
  | ready state => cases hs
  | call m r => cases hcall
  | offer m source route =>
    obtain rfl : m = n := Option.some.inj hs
    unfold step offer
    cases hp : c.place with
    | none => simp [hc, hp]
    | some q =>
      simp only [hc, hp, Shared.holder?_offer, Step.offered, Option.some.injEq, ↓reduceIte,
        eq_comm (a := p)]
      split <;> simp
  | settle m o =>
    obtain rfl : m = n := Option.some.inj hs
    refine hsame ?_
    simp only [step, hc]
    rfl
  | poll m =>
    obtain rfl : m = n := Option.some.inj hs
    refine hsame ?_
    simp only [step, hc, poll_shared]
  | drop m =>
    obtain rfl : m = n := Option.some.inj hs
    refine hsame ?_
    simp only [step, hc, drop_eq]
    rfl

/-! ## Calls that have ended -/

/-- No call with this name is under way. -/
def Idle (t : State) (n : Text) : Prop :=
  ∀ c, t.calls.find? n = some c → c.live = false ∧ c.future.spans = []

theorem Idle.other {t : State} {n : Text} (h : Idle t n) (service : Service) {s : Step}
    (hs : s.name? ≠ some n) : Idle (t.step service s).1 n := by
  intro c hc
  rw [step_find?_of_ne service t hs] at hc
  exact h c hc

theorem idle_of_ended {t : State} {n : Text} {c : Call}
    (hc : t.calls.find? n = some c.ended) : Idle t n := by
  intro c' hc'
  obtain rfl := Option.some.inj (hc.symm.trans hc')
  exact ⟨rfl, Future.spans_taken _⟩

/-- Nothing comes of steps about a call that has ended. -/
theorem Idle.own {t : State} {n : Text} (h : Idle t n) (service : Service) {s : Step}
    (hs : s.name? = some n) (hcall : s.isCall = false) :
    (t.step service s).2.Uneventful ∧ Idle (t.step service s).1 n := by
  cases hc : t.calls.find? n with
  | none =>
    obtain ⟨hstep, hquiet⟩ := step_nobody service hs hcall hc
    rw [hstep]
    exact ⟨hquiet, h⟩
  | some c =>
    obtain ⟨hdead, hspans⟩ := h c hc
    rcases step_own service hs hcall hc with
      ⟨hquiet, -, hnext⟩ | ⟨final, report, -, hyield, hlive, hobs, hnext⟩
    · refine ⟨hquiet, fun c' hc' => ?_⟩
      obtain rfl := Option.some.inj (hnext.symm.trans hc')
      exact ⟨hdead, hspans⟩
    · obtain rfl : final = none := hlive.resolve_left (by rw [hdead]; exact Bool.false_ne_true)
      rw [hobs, Future.closingOrder, hspans]
      exact ⟨Observation.uneventful_closing hyield, idle_of_ended hnext⟩

/-! ## Calls under way -/

/-- The call with this name is under way: its span is open and its future has yielded nothing. -/
structure UnderWay (t : State) (n : Text) (span : OpenSpan) (holder : RouteHolder)
    (outcome : Option Outcome) : Prop where
  apart : Private t
  call : t.calls.find? n = some ⟨span.request, some span.place, [some span], outcome, true⟩
  holder : t.shared.holder? span.place = some holder

/-- A span is open in a state. -/
def IsOpen (t : State) (span : OpenSpan) : Prop :=
  ∃ n c, t.calls.find? n = some c ∧ span ∈ c.future.spans

/-- What a call to the service adds to the store comes behind what is there. -/
theorem next_le_step (service : Service) (t : State) (s : Step) :
    t.shared.next ≤ (t.step service s).1.shared.next := by
  cases s with
  | ready state => exact Nat.le_refl _
  | call n r =>
    obtain ⟨new, hnew⟩ := service.call_shared r t.shared
    simp only [State.step, call_eq, State.put, hnew, Shared.next, List.length_append]
    omega
  | offer n source route =>
    simp only [State.step]
    split
    · exact Nat.le_of_eq (offer_next ..).symm
    · exact Nat.le_refl _
  | poll n =>
    simp only [State.step]
    split
    · exact Nat.le_of_eq (congrArg Shared.next (poll_shared ..)).symm
    · exact Nat.le_refl _
  | settle n o =>
    simp only [State.step]
    split <;> exact Nat.le_refl _
  | drop n =>
    simp only [State.step]
    split
    · rw [drop_eq]
      exact Nat.le_refl _
    · exact Nat.le_refl _

theorem next_le_after (service : Service) (t : State) (steps : List Step) :
    t.shared.next ≤ (t.after service steps).shared.next := by
  induction steps generalizing t with
  | nil => exact Nat.le_refl _
  | cons s steps ih => exact Nat.le_trans (next_le_step service t s) (ih _)

/-- A span that is open after a step was open before it and is not ended by it, unless the step
opened it. -/
theorem isOpen_of_step (service : Service) {t : State} {s : Step} {span : OpenSpan}
    (h : IsOpen (t.step service s).1 span) :
    (∃ n c, t.calls.find? n = some c ∧ span ∈ c.future.spans ∧
      (s.ending? n c.outcome = none ∨ c.live = false)) ∨ t.shared.next ≤ span.place := by
  obtain ⟨n, c, hc, hmem⟩ := h
  by_cases hn : s.name? = some n
  · cases hcall : s.isCall with
    | true =>
      cases s with
      | call m r =>
        obtain rfl : m = n := Option.some.inj hn
        simp only [State.step, call_eq, State.put, find?_put_self, Option.some.injEq] at hc
        subst hc
        exact Or.inr (service.call_places r t.shared
          (List.mem_append_right _ (List.mem_map.2 ⟨span, hmem, rfl⟩))).1
      | _ => cases hcall
    | false =>
      cases hd : t.calls.find? n with
      | none =>
        rw [(step_nobody service hn hcall hd).1, hd] at hc
        cases hc
      | some d =>
        rcases step_own service hn hcall hd with
          ⟨-, hend, hnext⟩ | ⟨_, _, -, -, -, -, hnext⟩
        · obtain rfl := Option.some.inj (hnext.symm.trans hc)
          exact Or.inl ⟨n, d, hd, hmem, hend⟩
        · obtain rfl := Option.some.inj (hnext.symm.trans hc)
          rw [Call.ended, Future.spans_taken] at hmem
          cases hmem
  · rw [step_find?_of_ne service t hn] at hc
    exact Or.inl ⟨n, c, hc, hmem, Or.inl
      (Option.eq_none_iff_forall_ne_some.2 fun _ hf => hn (Step.name?_of_ending? hf))⟩

/-- A span that is open after some steps was open before them, unless they opened it. -/
theorem isOpen_of_after (service : Service) {span : OpenSpan} :
    ∀ (steps : List Step) {t : State}, IsOpen (t.after service steps) span →
      IsOpen t span ∨ t.shared.next ≤ span.place := by
  intro steps
  induction steps with
  | nil => exact fun h => Or.inl h
  | cons s steps ih =>
    intro t h
    rcases ih h with hopen | hle
    · exact (isOpen_of_step service hopen).imp_left fun ⟨n, c, hc, hmem, _⟩ => ⟨n, c, hc, hmem⟩
    · exact Or.inr (Nat.le_trans (next_le_step service t s) hle)

end Session.State

end ServerTelemetry
