import Mathlib.Data.List.Forall2
import ServerTelemetry.Proofs.Session.Private

/-!
# Sessions of like steps

Two sessions take like steps if these are of the same kind and about the same calls, and only come
with requests, outcomes and offers that are not told apart (`Step.Like`). A `Simulation` is what has
to be kept between two services for like steps to close like spans. One step keeps it
(`Simulation.step`), so all spans that the two sessions close are alike (`Simulation.run`).
-/

namespace ServerTelemetry

/-- Which requests, outcomes and offers of routes are not told apart. -/
structure Likeness where
  requests : Http.Request → Http.Request → Prop
  outcomes : Outcome → Outcome → Prop
  offers : RouteSource × Text → RouteSource × Text → Prop

/-- Steps that are the same but for what is not told apart. -/
inductive Step.Like (l : Likeness) : Step → Step → Prop
  | ready (state : Readiness) : Like l (.ready state) (.ready state)
  | call (n : Text) {r r' : Http.Request} (h : l.requests r r') : Like l (.call n r) (.call n r')
  | offer (n : Text) {source source' : RouteSource} {route route' : Text}
      (h : l.offers (source, route) (source', route')) :
      Like l (.offer n source route) (.offer n source' route')
  | settle (n : Text) {o o' : Outcome} (h : l.outcomes o o') : Like l (.settle n o) (.settle n o')
  | poll (n : Text) : Like l (.poll n) (.poll n)
  | drop (n : Text) : Like l (.drop n) (.drop n)

/-- Observations of spans that are closed alike. -/
inductive Observation.Like (closings : Closed → Closed → Prop) : Observation → Observation → Prop
  | closing {closed closed' : List Closed} (h : List.Forall₂ closings closed closed')
      (report report' : Report) : Like closings (.closing closed report) (.closing closed' report')

theorem Observation.Like.quiet {closings : Closed → Closed → Prop} (report report' : Report) :
    Like closings (.quiet report) (.quiet report') :=
  .closing .nil report report'

/-- What is kept between the sessions of two services that take like steps. -/
structure Simulation (l : Likeness) (closings : Closed → Closed → Prop) (a b : Service) where
  shared : Shared → Shared → Prop
  places : Option Nat → Option Nat → Prop
  spans : OpenSpan → OpenSpan → Prop
  initial : shared {} {}
  /-- Spans that are alike are closed alike. -/
  close : ∀ {w v : Shared} {s s' : OpenSpan} {o o' : Option Outcome}, shared w v → spans s s' →
    Option.Rel l.outcomes o o' →
    closings (s.close (w.holderAt s.place) o) (s'.close (v.holderAt s'.place) o')
  offer : ∀ {t v : Session.State} {c d : Call} {source source' : RouteSource} {route route' : Text},
    shared t.shared v.shared → places c.place d.place →
    l.offers (source, route) (source', route') →
    shared (t.offer c source route).1.shared (v.offer d source' route').1.shared
  call : ∀ {w v : Shared} {r r' : Http.Request}, shared w v → l.requests r r' →
    shared (a.call r w).2 (b.call r' v).2 ∧
      places (a.call r w).1.place (b.call r' v).1.place ∧
      List.Forall₂ spans (a.call r w).1.future.spans (b.call r' v).1.future.spans

namespace Simulation

open Session

variable {l : Likeness} {closings : Closed → Closed → Prop} {a b : Service}
  (m : Simulation l closings a b)

/-- Calls that are alike. -/
structure SameCall (c d : Call) : Prop where
  place : m.places c.place d.place
  spans : List.Forall₂ m.spans c.future.spans d.future.spans
  outcome : Option.Rel l.outcomes c.outcome d.outcome
  live : c.live = d.live

/-- States of two sessions that have taken like steps. -/
structure Alike (t v : State) : Prop where
  shared : m.shared t.shared v.shared
  calls : ∀ n, Option.Rel m.SameCall (t.calls.find? n) (v.calls.find? n)

variable {m} {t v : State}

theorem SameCall.ended {c d : Call} (h : m.SameCall c d) : m.SameCall c.ended d.ended := by
  refine ⟨h.place, ?_, h.outcome, rfl⟩
  rw [Call.ended, Call.ended, Future.spans_taken, Future.spans_taken]
  exact .nil

theorem closed_alike {w u : Shared} (hw : m.shared w u) {spans spans' : List OpenSpan}
    (h : List.Forall₂ m.spans spans spans') {o o' : Option Outcome}
    (ho : Option.Rel l.outcomes o o') :
    List.Forall₂ closings (spans.map fun s => s.close (w.holderAt s.place) o)
      (spans'.map fun s => s.close (u.holderAt s.place) o') := by
  rw [List.forall₂_map_left_iff, List.forall₂_map_right_iff]
  exact h.imp fun s s' hs => m.close hw hs ho

namespace Alike

theorem find?_cases (h : m.Alike t v) (n : Text) :
    (t.calls.find? n = none ∧ v.calls.find? n = none) ∨
      ∃ c d, t.calls.find? n = some c ∧ v.calls.find? n = some d ∧ m.SameCall c d := by
  have hn := h.calls n
  generalize t.calls.find? n = c at hn ⊢
  generalize v.calls.find? n = d at hn ⊢
  cases hn with
  | none => exact Or.inl ⟨rfl, rfl⟩
  | some hcd => exact Or.inr ⟨_, _, rfl, rfl, hcd⟩

theorem put (h : m.Alike t v) {w u : Shared} (hw : m.shared w u) (n : Text) {c d : Call}
    (hc : m.SameCall c d) :
    m.Alike ({ t with shared := w }.put n c) ({ v with shared := u }.put n d) := by
  refine ⟨hw, fun k => ?_⟩
  by_cases hk : k = n
  · subst hk
    simp only [State.put, find?_put_self]
    exact .some hc
  · simp only [State.put, find?_put_of_ne _ _ hk]
    exact h.calls k

theorem call (h : m.Alike t v) (n : Text) {r r' : Http.Request} (hr : l.requests r r') :
    Observation.Like closings (t.call a n r).2 (v.call b n r').2 ∧
      m.Alike (t.call a n r).1 (v.call b n r').1 := by
  obtain ⟨hshared, hplace, hspans⟩ := m.call h.shared hr
  rw [State.call_eq, State.call_eq]
  refine ⟨.closing ?_ _ _, h.put hshared n ⟨hplace, hspans, .none, rfl⟩⟩
  rcases h.find?_cases n with ⟨ht, hv⟩ | ⟨c, d, ht, hv, hcd⟩ <;> rw [ht, hv]
  · exact .nil
  · simp only [Option.toList_some, List.flatMap_singleton]
    exact closed_alike hshared hcd.spans .none

theorem offer (h : m.Alike t v) {c d : Call} (hcd : m.SameCall c d) {source source' : RouteSource}
    {route route' : Text} (hoffer : l.offers (source, route) (source', route')) :
    Observation.Like closings (t.offer c source route).2 (v.offer d source' route').2 ∧
      m.Alike (t.offer c source route).1 (v.offer d source' route').1 := by
  rw [State.offer_observed, State.offer_observed]
  refine ⟨.quiet _ _, m.offer h.shared hcd.place hoffer, fun n => ?_⟩
  rw [State.offer_calls, State.offer_calls]
  exact h.calls n

theorem poll (h : m.Alike t v) (n : Text) {c d : Call} (hcd : m.SameCall c d) :
    Observation.Like closings (t.poll n c).2 (v.poll n d).2 ∧
      m.Alike (t.poll n c).1 (v.poll n d).1 := by
  -- Both futures are gone, have nothing to yield or yield, as the calls agree on that.
  cases hlive : c.live with
  | false =>
    rw [State.poll_dead t n hlive, State.poll_dead v n (hcd.live.symm.trans hlive)]
    exact ⟨.quiet _ _, h⟩
  | true =>
    have hlive' := hcd.live.symm.trans hlive
    have hout := hcd.outcome
    cases ho : c.outcome with
    | none =>
      rw [ho] at hout
      cases ho' : d.outcome with
      | some o => rw [ho'] at hout; cases hout
      | none =>
        rw [State.poll_pending t n hlive ho, State.poll_pending v n hlive' ho']
        exact ⟨.quiet _ _, h.put h.shared n hcd⟩
    | some o =>
      rw [ho] at hout
      cases ho' : d.outcome with
      | none => rw [ho'] at hout; cases hout
      | some o' =>
        rw [ho'] at hout
        rw [State.poll_ready t n hlive ho, State.poll_ready v n hlive' ho']
        refine ⟨.closing ?_ _ _, h.put h.shared n hcd.ended⟩
        exact closed_alike h.shared (List.forall₂_reverse_iff.2 hcd.spans) hout

theorem drop (h : m.Alike t v) (n : Text) {c d : Call} (hcd : m.SameCall c d) :
    Observation.Like closings (t.drop n c).2 (v.drop n d).2 ∧
      m.Alike (t.drop n c).1 (v.drop n d).1 := by
  rw [State.drop_eq, State.drop_eq]
  exact ⟨.closing (closed_alike h.shared hcd.spans .none) _ _, h.put h.shared n hcd.ended⟩

/-- **Like steps close like spans**, and what comes after them is alike. -/
theorem step (h : m.Alike t v) {s s' : Step} (hs : s.Like l s') :
    Observation.Like closings (t.step a s).2 (v.step b s').2 ∧
      m.Alike (t.step a s).1 (v.step b s').1 := by
  cases hs with
  | ready state => exact ⟨.quiet _ _, h⟩
  | call n hr => exact h.call n hr
  | offer n hoffer =>
    rcases h.find?_cases n with ⟨ht, hv⟩ | ⟨c, d, ht, hv, hcd⟩ <;> simp only [State.step, ht, hv]
    · exact ⟨.quiet _ _, h⟩
    · exact h.offer hcd hoffer
  | settle n ho =>
    rcases h.find?_cases n with ⟨ht, hv⟩ | ⟨c, d, ht, hv, hcd⟩ <;> simp only [State.step, ht, hv]
    · exact ⟨.quiet _ _, h⟩
    · exact ⟨.quiet _ _, h.put h.shared n ⟨hcd.place, hcd.spans, .some ho, hcd.live⟩⟩
  | poll n =>
    rcases h.find?_cases n with ⟨ht, hv⟩ | ⟨c, d, ht, hv, hcd⟩ <;> simp only [State.step, ht, hv]
    · exact ⟨.quiet _ _, h⟩
    · exact h.poll n hcd
  | drop n =>
    rcases h.find?_cases n with ⟨ht, hv⟩ | ⟨c, d, ht, hv, hcd⟩ <;> simp only [State.step, ht, hv]
    · exact ⟨.quiet _ _, h⟩
    · exact h.drop n hcd

theorem run (h : m.Alike t v) {steps steps' : List Step}
    (hsteps : List.Forall₂ (Step.Like l) steps steps') :
    List.Forall₂ (Observation.Like closings) (t.run a steps) (v.run b steps') := by
  induction hsteps generalizing t v with
  | nil => exact .nil
  | cons hs _ ih =>
    obtain ⟨hlike, hnext⟩ := h.step hs
    exact .cons hlike (ih hnext)

end Alike

/-- Sessions of like steps close like spans, from the first step on. -/
theorem run (m : Simulation l closings a b) {steps steps' : List Step}
    (hsteps : List.Forall₂ (Step.Like l) steps steps') :
    List.Forall₂ (Observation.Like closings) (Session.run a [] steps) (Session.run b [] steps') :=
  Alike.run (m := m) ⟨m.initial, fun _ => .none⟩ hsteps

end Simulation

end ServerTelemetry
