import Mathlib.Data.List.Induction
import ServerTelemetry.Proofs.Session.UnderWay

/-!
# Calls in flight

Whatever layers a service has, a call is in flight from the step that makes it up to the first step
that ends it (`inFlight_of_endOf?`). Until then all its spans are open, its future has yielded nothing,
and of its holders only the one on the request has changed, by what was offered to the call. The step
that ends it closes all its spans at once (`ended_of_endOf?`), and a step that ends no call is not
eventful (`uneventful_or_ends`).
-/

namespace ServerTelemetry

namespace Session

/-- What comes of the call that step `i` of a session makes with this request, and what is shared
afterwards. -/
def callAt (service : Service) (steps : List Step) (i : Nat) (r : Http.Request) :
    Service.Called × Shared :=
  service.call r (State.after service {} (steps.take i)).shared

theorem callAt_take (service : Service) (steps : List Step) {i m : Nat} (h : i ≤ m)
    (r : Http.Request) : callAt service (steps.take m) i r = callAt service steps i r := by
  unfold callAt
  rw [List.take_take, Nat.min_eq_left h]

namespace State

/-- The call with this name is in flight: its spans are open and its future has yielded nothing. -/
structure InFlight (t : State) (n : Text) (called : Service.Called) (outcome : Option Outcome) :
    Prop where
  apart : Private t
  call : t.calls.find? n = some { Call.start called with outcome := outcome }

namespace InFlight

variable {t : State} {n : Text} {called : Service.Called} {outcome : Option Outcome}

theorem place_lt (h : InFlight t n called outcome) {p : Nat} (hp : p ∈ called.places) :
    p < t.shared.next :=
  h.apart.place_lt h.call hp

theorem place_span_lt (h : InFlight t n called outcome) {span : OpenSpan}
    (hspan : span ∈ called.future.spans) : span.place < t.shared.next :=
  h.place_lt (List.mem_append_right _ (List.mem_map.2 ⟨span, hspan, rfl⟩))

theorem isOpen (h : InFlight t n called outcome) {span : OpenSpan}
    (hspan : span ∈ called.future.spans) : IsOpen t span :=
  ⟨n, _, h.call, hspan⟩

/-- The spans of a call in flight are among the open spans of no other. -/
theorem notMem_spans (h : InFlight t n called outcome) {span : OpenSpan}
    (hspan : span ∈ called.future.spans) {m : Text} (hm : m ≠ n) {c : Call}
    (hc : t.calls.find? m = some c) : span ∉ c.future.spans := by
  intro hmem
  refine h.apart.apart hm hc h.call (List.mem_append_right _ (List.mem_map.2 ⟨span, hmem, rfl⟩)) ?_
  exact List.mem_append_right _ (List.mem_map.2 ⟨span, hspan, rfl⟩)

/-- A call is in flight once it has been made. -/
theorem start {t : State} (h : Private t) (service : Service) (n : Text) (r : Http.Request) :
    InFlight (t.step service (.call n r)).1 n (service.call r t.shared).1 none := by
  refine ⟨h.step service _, ?_⟩
  simp only [State.step, State.call_eq, State.put, find?_put_self]
  rfl

/-- A step that does not end a call in flight leaves it in flight and is not eventful if it is about the
call. -/
theorem step (h : InFlight t n called outcome) (service : Service) {s : Step}
    (hs : s.ending? n outcome = none) :
    InFlight (t.step service s).1 n called (s.settled n outcome) ∧
      (∀ p ∈ called.places, (t.step service s).1.shared.holder? p =
        (t.shared.holder? p).map fun holder =>
          if called.place = some p then s.offered n holder else holder) ∧
      (s.name? = some n → (t.step service s).2.Uneventful) := by
  by_cases hn : s.name? = some n
  · have hcall : s.isCall = false := by
      cases s with
      | call m r =>
        rw [Step.ending?, if_pos (Option.some.inj hn)] at hs
        cases hs
      | _ => rfl
    rcases step_own service hn hcall h.call with ⟨hquiet, -, hnext⟩ | ⟨final, _, hend, -⟩
    · exact ⟨⟨h.apart.step service s, hnext⟩,
        fun p _ => holder?_step_own service hn hcall h.call p, fun _ => hquiet⟩
    · cases hs.symm.trans hend
  · refine ⟨⟨h.apart.step service s, ?_⟩, fun p hp => ?_, fun he => absurd he hn⟩
    · rw [step_find?_of_ne service t hn, Step.settled_of_ne hn]
      exact h.call
    · rw [h.apart.holder?_step service hn h.call hp]
      simp only [Step.offered_of_ne hn, ite_self, Option.map_id']

/-- Steps that do not end a call leave it in flight. Routes are offered to the holder on its request
alone. -/
theorem after (service : Service) :
    ∀ (steps : List Step) {t : State} {outcome : Option Outcome},
      InFlight t n called outcome → ending? n outcome steps = none →
      InFlight (t.after service steps) n called (settledBy n outcome steps) ∧
        ∀ p ∈ called.places, (t.after service steps).shared.holder? p =
          (t.shared.holder? p).map fun holder =>
            if called.place = some p then offeredBy n holder steps else holder := by
  intro steps
  induction steps with
  | nil =>
    intro t outcome h _
    refine ⟨h, fun p _ => ?_⟩
    simp only [after_nil, offeredBy, List.foldl_nil, ite_self, Option.map_id']
  | cons s steps ih =>
    intro t outcome h hend
    cases hs : s.ending? n outcome with
    | some final =>
      rw [ending?_cons_of_some hs] at hend
      cases hend
    | none =>
      rw [ending?_cons_of_none hs, Option.map_eq_none_iff] at hend
      obtain ⟨hnext, hstep, -⟩ := h.step service hs
      obtain ⟨hrun, hholder⟩ := ih hnext hend
      refine ⟨hrun, fun p hp => ?_⟩
      rw [after_cons, hholder p hp, hstep p hp, Option.map_map]
      refine congrArg (Option.map · (t.shared.holder? p)) (funext fun holder => ?_)
      by_cases hplace : called.place = some p
      · simp only [Function.comp_apply, if_pos hplace]
        rfl
      · simp only [Function.comp_apply, if_neg hplace]

/-- **The step that ends a call** closes all its spans with what their holders hold, yields the outcome
if it is a poll, and leaves neither a span open nor the call in flight. -/
theorem ended (h : InFlight t n called outcome) (service : Service) {s : Step}
    {final : Option Outcome} (hs : s.ending? n outcome = some final) :
    (∃ report, (t.step service s).2 = .closing ((called.future.closingOrder final).map fun span =>
        span.close (t.shared.holderAt span.place) final) report ∧ report.yielded = final) ∧
    (∀ span ∈ called.future.spans, ¬ IsOpen (t.step service s).1 span) ∧
    (s.isCall = false → Idle (t.step service s).1 n) := by
  have hn := Step.name?_of_ending? hs
  refine ⟨?_, fun span hspan hopen => ?_, fun hcall => ?_⟩
  · cases hcall : s.isCall with
    | true =>
      cases s with
      | call m r =>
        obtain rfl : m = n := Option.some.inj hn
        rw [Step.ending?, if_pos rfl] at hs
        cases hs
        obtain ⟨new, hnew⟩ := service.call_shared r t.shared
        -- The new call adds its holders behind those of the call that had the name.
        have hclosed : ∀ span ∈ called.future.spans,
            span.close ((service.call r t.shared).2.holderAt span.place) none =
              span.close (t.shared.holderAt span.place) none := by
          intro span hspan
          rw [hnew]
          exact congrArg (fun holder => span.close (holder.getD .empty) none)
            (List.getElem?_append_left (h.place_span_lt hspan))
        simp only [State.step, call_eq, h.call, Option.toList_some, List.flatMap_cons,
          List.flatMap_nil, List.append_nil]
        exact ⟨_, congrArg (Observation.closing · _) (List.map_congr_left hclosed), rfl⟩
      | _ => cases hcall
    | false =>
      rcases step_own service hn hcall h.call with
        ⟨-, hend, -⟩ | ⟨final', report, hend, hyield, -, hobs, -⟩
      · rcases hend with hend | hlive
        · cases hs.symm.trans hend
        · cases hlive
      · obtain rfl := Option.some.inj (hs.symm.trans hend)
        exact ⟨report, hobs, hyield⟩
  · -- No other call has this span, and spans that are opened now have places further on.
    rcases isOpen_of_step service hopen with ⟨m, c, hc, hmem, hend⟩ | hle
    · have hm : m = n := Decidable.byContradiction fun hm => h.notMem_spans hspan hm hc hmem
      subst hm
      obtain rfl := Option.some.inj (h.call.symm.trans hc)
      rcases hend with hend | hlive
      · cases hs.symm.trans hend
      · cases hlive
    · exact Nat.not_le_of_lt (h.place_span_lt hspan) hle
  · rcases step_own service hn hcall h.call with
      ⟨-, hend, -⟩ | ⟨_, _, -, -, -, -, hnext⟩
    · rcases hend with hend | hlive
      · cases hs.symm.trans hend
      · cases hlive
    · exact idle_of_ended hnext

end InFlight

/-! ## Calls of a session -/

theorem after_take (service : Service) (steps : List Step) {a b : Nat} (h : a ≤ b) :
    State.after service {} (steps.take b) =
      (State.after service {} (steps.take a)).after service ((steps.take b).drop a) := by
  rw [← after_append, ← Nat.min_eq_left h, ← List.take_take, Nat.min_eq_left h,
    List.take_append_drop]

/-- **A call that no step has ended is in flight**, with the outcome and the routes that the steps since
then have given it. -/
theorem inFlight_of_endOf? (service : Service) {steps : List Step} {i : Nat} {n : Text}
    {r : Http.Request} (hi : steps[i]? = some (.call n r)) (hend : endOf? steps i = none) :
    InFlight (State.after service {} steps) n (callAt service steps i r).1
        (settledBy n none (steps.drop (i + 1))) ∧
      ∀ p ∈ (callAt service steps i r).1.places,
        (State.after service {} steps).shared.holder? p =
          ((callAt service steps i r).2.holder? p).map fun holder =>
            if (callAt service steps i r).1.place = some p
            then offeredBy n holder (steps.drop (i + 1)) else holder := by
  rw [endOf?, hi, Option.map_eq_none_iff] at hend
  have hstart := InFlight.start (private_after service (steps.take i)) service n r
  have hsteps : steps = steps.take i ++ .call n r :: steps.drop (i + 1) := by
    obtain ⟨hlt, hget⟩ := List.getElem?_eq_some_iff.1 hi
    rw [← hget, ← List.drop_eq_getElem_cons hlt, List.take_append_drop]
  have hrun := hstart.after service (steps.drop (i + 1)) hend
  rw [← after_cons, ← after_append, ← hsteps] at hrun
  exact hrun

/-- A call that has not ended is in flight, and one that has ended is not. -/
theorem idle_or_inFlight (service : Service) (steps : List Step) (n : Text) :
    Idle (State.after service {} steps) n ∨
      ∃ i r, steps[i]? = some (.call n r) ∧ endOf? steps i = none := by
  induction steps using List.reverseRecOn with
  | nil => exact Or.inl fun c hc => by cases hc
  | append_singleton steps s ih =>
    rw [after_append, after_cons, after_nil]
    -- A step about another call leaves things as they are. Of the steps about this one, the next call
    -- is in flight, and what is in flight stays so until a step ends it.
    by_cases hs : s.name? = some n
    · cases hcall : s.isCall with
      | true =>
        cases s with
        | call m r =>
          obtain rfl : m = n := Option.some.inj hs
          refine Or.inr ⟨steps.length, r, List.getElem?_concat_length, ?_⟩
          rw [endOf?_of_call List.getElem?_concat_length, List.drop_of_length_le (by simp)]
          rfl
        | _ => cases hcall
      | false =>
        rcases ih with hidle | ⟨i, r, hi, hnone⟩
        · exact Or.inl (hidle.own service hs hcall).2
        · obtain ⟨hflight, -⟩ := inFlight_of_endOf? service hi hnone
          cases hend : s.ending? n (settledBy n none (steps.drop (i + 1))) with
          | some final => exact Or.inl ((hflight.ended service hend).2.2 hcall)
          | none =>
            obtain ⟨hlt, -⟩ := List.getElem?_eq_some_iff.1 hi
            refine Or.inr ⟨i, r, by rw [List.getElem?_append_left hlt, hi], ?_⟩
            rw [endOf?_append hi, hnone, Option.none_or, ending?_cons_of_none hend]
            rfl
    · rcases ih with hidle | ⟨i, r, hi, hnone⟩
      · exact Or.inl (hidle.other service hs)
      · obtain ⟨hlt, -⟩ := List.getElem?_eq_some_iff.1 hi
        have hend : ∀ o, s.ending? n o = none := fun o =>
          Option.eq_none_iff_forall_ne_some.2 fun _ hf => hs (Step.name?_of_ending? hf)
        refine Or.inr ⟨i, r, by rw [List.getElem?_append_left hlt, hi], ?_⟩
        rw [endOf?_append hi, hnone, Option.none_or, ending?_cons_of_none (hend _)]
        rfl

/-- **A step that ends no call is not eventful.** -/
theorem uneventful_or_ends (service : Service) (steps : List Step) (s : Step) :
    ((State.after service {} steps).step service s).2.Uneventful ∨
      ∃ i final, endOf? (steps ++ [s]) i = some (steps.length, final) := by
  cases hs : s.name? with
  | none =>
    cases s with
    | ready state => exact Or.inl (Observation.uneventful_quiet rfl)
    | _ => cases hs
  | some n =>
    rcases idle_or_inFlight service steps n with hidle | ⟨i, r, hi, hnone⟩
    · left
      cases hcall : s.isCall with
      | false => exact (hidle.own service hs hcall).1
      | true =>
        cases s with
        | call m r =>
          obtain rfl : m = n := Option.some.inj hs
          simp only [step, State.call_eq]
          cases hold : (State.after service {} steps).calls.find? m with
          | none => exact Observation.uneventful_closing rfl
          | some old =>
            rw [Option.toList_some, List.flatMap_cons, List.flatMap_nil, (hidle old hold).2]
            exact Observation.uneventful_closing rfl
        | _ => cases hcall
    · cases hend : s.ending? n (settledBy n none (steps.drop (i + 1))) with
      | none => exact Or.inl (((inFlight_of_endOf? service hi hnone).1.step service hend).2.2 hs)
      | some final =>
        refine Or.inr ⟨i, final, ?_⟩
        rw [endOf?_append hi, hnone, Option.none_or, ending?_cons_of_some hend]
        rfl

/-- What is observed of a step that ends no call. -/
theorem uneventful_of_endOf? (service : Service) {steps : List Step} {j : Nat} {o : Observation}
    (hj : (run service {} steps)[j]? = some o)
    (hnone : ∀ i final, endOf? steps i ≠ some (j, final)) : o.Uneventful := by
  rw [getElem?_run] at hj
  obtain ⟨s, hs, rfl⟩ := Option.map_eq_some_iff.1 hj
  obtain ⟨hlt, -⟩ := List.getElem?_eq_some_iff.1 hs
  rcases uneventful_or_ends service (steps.take j) s with hquiet | ⟨i, final, hend⟩
  · exact hquiet
  · have hjs : steps.take j ++ [s] = steps.take (j + 1) := by
      rw [List.take_add_one, hs, Option.toList_some]
    rw [hjs, List.length_take_of_le (Nat.le_of_lt hlt)] at hend
    exact absurd (endOf?_of_take hend) (hnone i final)

/-- **The step that ends a call** finds it in flight and is observed as the end of all its spans. -/
theorem ended_of_endOf? (service : Service) {steps : List Step} {i j : Nat} {n : Text}
    {r : Http.Request} {final : Option Outcome} (hi : steps[i]? = some (.call n r))
    (hend : endOf? steps i = some (j, final)) :
    let state := State.after service {} (steps.take j)
    let called := (callAt service steps i r).1
    (∃ outcome, InFlight state n called outcome) ∧
    (∀ p ∈ called.places, state.shared.holder? p =
      ((callAt service steps i r).2.holder? p).map fun holder =>
        if called.place = some p then offeredBy n holder ((steps.take j).drop (i + 1))
        else holder) ∧
    (∃ report, (run service {} steps)[j]? =
        some (.closing ((called.future.closingOrder final).map fun span =>
          span.close (state.shared.holderAt span.place) final) report) ∧
      report.yielded = final) ∧
    ∀ span ∈ called.future.spans,
      ¬ IsOpen (State.after service {} (steps.take (j + 1))) span := by
  intro state called
  obtain ⟨n', r', s, hi', hij, hj, hnone, hs⟩ := endOf?_some hend
  obtain ⟨rfl, rfl⟩ := Step.call.inj (Option.some.inj (hi'.symm.trans hi))
  have hcall : (steps.take j)[i]? = some (.call n' r') := by
    rw [List.getElem?_take_of_lt hij, hi]
  obtain ⟨hflight, hholder⟩ := inFlight_of_endOf? service hcall hnone
  rw [callAt_take service steps (Nat.le_of_lt hij)] at hflight hholder
  obtain ⟨⟨report, hobs, hyield⟩, hclosed, -⟩ := hflight.ended service hs
  refine ⟨⟨_, hflight⟩, hholder, ⟨report, ?_, hyield⟩, ?_⟩
  · rw [getElem?_run, hj, Option.map_some]
    exact congrArg some hobs
  · rw [List.take_add_one, hj, Option.toList_some, after_append]
    exact hclosed

/-- A span that a step reports belongs to the call that the step ends. -/
theorem exists_ended (service : Service) {steps : List Step} {j : Nat} {o : Observation}
    (hj : (run service {} steps)[j]? = some o) {span : Span} (hspan : span ∈ o.spans) :
    ∃ i n r final, steps[i]? = some (.call n r) ∧ endOf? steps i = some (j, final) ∧
      o.report.yielded = final ∧
      ∃ x ∈ (callAt service steps i r).1.future.spans, ∃ holder, span = x.report holder final := by
  by_cases hends : ∃ i final, endOf? steps i = some (j, final)
  · obtain ⟨i, final, hend⟩ := hends
    obtain ⟨n, r, _, hi, -⟩ := endOf?_some hend
    obtain ⟨-, -, ⟨report, hobs, hyield⟩, -⟩ := ended_of_endOf? service hi hend
    obtain rfl := Option.some.inj (hj.symm.trans hobs)
    obtain ⟨c, hc, hreport⟩ := List.mem_filterMap.1 hspan
    obtain ⟨x, hx, rfl⟩ := List.mem_map.1 hc
    simp only [OpenSpan.close, Option.ite_none_right_eq_some, Option.some.injEq] at hreport
    have hopen : x ∈ (callAt service steps i r).1.future.spans := by
      cases final with
      | none => exact hx
      | some outcome => exact List.mem_reverse.1 hx
    exact ⟨i, n, r, final, hi, hend, hyield, x, hopen, _, hreport.2.symm⟩
  · have hquiet := uneventful_of_endOf? service hj fun i final hend => hends ⟨i, final, hend⟩
    rw [hquiet.spans] at hspan
    cases hspan

/-- **The spans of a call are open from the call to its end**, and in no other state of the session. -/
theorem isOpen_span_iff (service : Service) {steps : List Step} {i m : Nat} {n : Text}
    {r : Http.Request} (hi : steps[i]? = some (.call n r)) (hm : m ≤ steps.length)
    {span : OpenSpan} (hspan : span ∈ (callAt service steps i r).1.future.spans) :
    IsOpen (State.after service {} (steps.take m)) span ↔
      i < m ∧ ∀ e ∈ endOf? steps i, m ≤ e.1 := by
  constructor
  · intro hopen
    -- Before the call its places are not handed out yet, and after the end they are not handed out
    -- again.
    have him : i < m := by
      refine Nat.lt_of_not_le fun hmi => ?_
      obtain ⟨n', c, hc, hmem⟩ := hopen
      have hlt := (private_after service (steps.take m)).place_lt hc
        (List.mem_append_right _ (List.mem_map.2 ⟨_, hmem, rfl⟩))
      have hle := next_le_after service (State.after service {} (steps.take m))
        ((steps.take i).drop m)
      rw [← after_take service steps hmi] at hle
      have hplace := (service.call_places r (State.after service {} (steps.take i)).shared
        (List.mem_append_right _ (List.mem_map.2 ⟨span, hspan, rfl⟩))).1
      omega
    refine ⟨him, fun ⟨j, final⟩ he => Nat.le_of_not_lt fun (hjm : j + 1 ≤ m) => ?_⟩
    obtain ⟨⟨_, hflight⟩, -, -, hclosed⟩ := ended_of_endOf? service hi he
    rw [after_take service steps hjm] at hopen
    rcases isOpen_of_after service _ hopen with hopen | hle
    · exact hclosed span hspan hopen
    · have hnext := next_le_after service (State.after service {} (steps.take j))
        ((steps.take (j + 1)).drop j)
      rw [← after_take service steps (Nat.le_add_right j 1)] at hnext
      have hlt := hflight.place_span_lt hspan
      omega
  · rintro ⟨him, he⟩
    have hcall : (steps.take m)[i]? = some (.call n r) := by
      rw [List.getElem?_take_of_lt him, hi]
    obtain ⟨hflight, -⟩ := inFlight_of_endOf? service hcall ((endOf?_take hi him hm).2 he)
    rw [callAt_take service steps (Nat.le_of_lt him)] at hflight
    exact hflight.isOpen hspan

end State

end Session

end ServerTelemetry
