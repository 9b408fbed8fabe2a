import ServerTelemetry.Session

/-!
# Where calls end

When a call ends can be read off the steps of a session (`endOf?`): in the first step that polls its
future with an outcome to yield, that drops the future or that gives its name to another call. What
the handler has to yield by then, and what the holder on its request holds, is up to the steps of the
call as well (`settledBy`, `offeredBy`).
-/

namespace ServerTelemetry

/-! ## What steps do to a call -/

namespace Step

/-- What the handler of the call with this name has to yield after a step. -/
def settled (name : Text) (outcome : Option Outcome) : Step → Option Outcome
  | settle n o => if n = name then some o else outcome
  | _ => outcome

/-- What the holder on the request of the call with this name holds after a step. -/
def offered (name : Text) (holder : RouteHolder) : Step → RouteHolder
  | offer n source route => if n = name then (holder.offer source route).1 else holder
  | _ => holder

/-- How a step ends the call with this name, if it does: with the outcome its future yields, or with
none where the future is dropped or the name is given to another call. -/
def ending? (name : Text) (outcome : Option Outcome) : Step → Option (Option Outcome)
  | poll n => if n = name then outcome.map some else none
  | drop n | call n _ => if n = name then some none else none
  | _ => none

theorem settled_of_ne {s : Step} {n : Text} (h : s.name? ≠ some n) (o : Option Outcome) :
    s.settled n o = o := by
  cases s with
  | settle m o' => exact if_neg fun he => h (congrArg some he)
  | _ => rfl

theorem offered_of_ne {s : Step} {n : Text} (h : s.name? ≠ some n) (holder : RouteHolder) :
    s.offered n holder = holder := by
  cases s with
  | offer m source route => exact if_neg fun he => h (congrArg some he)
  | _ => rfl

/-- A call is ended by steps about it alone. -/
theorem name?_of_ending? {s : Step} {n : Text} {o final : Option Outcome}
    (h : s.ending? n o = some final) : s.name? = some n := by
  have hname : ∀ {m : Text} {x : Option (Option Outcome)},
      (if m = n then x else none) = some final → some m = some n := by
    intro m x hx
    by_cases hm : m = n
    · rw [hm]
    · rw [if_neg hm] at hx
      cases hx
  cases s with
  | poll m | drop m | call m r => exact hname h
  | _ => cases h

end Step

namespace Session

/-- What the handler of the call with this name has to yield after some steps. -/
def settledBy (name : Text) (outcome : Option Outcome) (steps : List Step) : Option Outcome :=
  steps.foldl (Step.settled name) outcome

/-- What the holder on the request of the call with this name holds after some steps. -/
def offeredBy (name : Text) (holder : RouteHolder) (steps : List Step) : RouteHolder :=
  steps.foldl (Step.offered name) holder

/-- Which of these steps is the first to end the call with this name, and how. -/
def ending? (name : Text) (outcome : Option Outcome) : List Step → Option (Nat × Option Outcome)
  | [] => none
  | step :: steps =>
    match step.ending? name outcome with
    | some final => some (0, final)
    | none => (ending? name (step.settled name outcome) steps).map fun (k, final) => (k + 1, final)

/-- Which step of a session ends the call that its step `i` makes, and how. -/
def endOf? (steps : List Step) (i : Nat) : Option (Nat × Option Outcome) :=
  match steps[i]? with
  | some (.call name _) =>
    (ending? name none (steps.drop (i + 1))).map fun (k, final) => (i + 1 + k, final)
  | _ => none

theorem ending?_cons_of_some {s : Step} {n : Text} {o final : Option Outcome}
    (h : s.ending? n o = some final) (steps : List Step) :
    ending? n o (s :: steps) = some (0, final) := by
  simp only [ending?, h]

theorem ending?_cons_of_none {s : Step} {n : Text} {o : Option Outcome}
    (h : s.ending? n o = none) (steps : List Step) :
    ending? n o (s :: steps) =
      (ending? n (s.settled n o) steps).map fun (k, final) => (k + 1, final) := by
  simp only [ending?, h]

/-- A call ends in a sequence of steps if it ends in the first part of it, or else in the second. -/
theorem ending?_append (n : Text) (o : Option Outcome) (a b : List Step) :
    ending? n o (a ++ b) =
      (ending? n o a).or
        ((ending? n (settledBy n o a) b).map fun (k, final) => (a.length + k, final)) := by
  induction a generalizing o with
  | nil =>
    simp only [List.nil_append, ending?, Option.none_or, settledBy, List.foldl_nil,
      List.length_nil, Nat.zero_add, Option.map_id']
  | cons s a ih =>
    cases h : s.ending? n o with
    | some final =>
      rw [List.cons_append, ending?_cons_of_some h, ending?_cons_of_some h]
      rfl
    | none =>
      rw [List.cons_append, ending?_cons_of_none h, ending?_cons_of_none h, ih]
      cases ending? n (s.settled n o) a with
      | some e => rfl
      | none =>
        simp only [Option.none_or, Option.map_none, Option.map_map, settledBy, List.foldl_cons,
          List.length_cons, Function.comp_def, Nat.add_right_comm]

/-- The step that ends a call is the first to do so. -/
theorem ending?_some {n : Text} {o final : Option Outcome} {steps : List Step} {k : Nat}
    (h : ending? n o steps = some (k, final)) :
    ∃ s, steps[k]? = some s ∧ ending? n o (steps.take k) = none ∧
      s.ending? n (settledBy n o (steps.take k)) = some final := by
  induction steps generalizing o k with
  | nil => cases h
  | cons s steps ih =>
    cases hs : s.ending? n o with
    | some f =>
      rw [ending?_cons_of_some hs] at h
      cases h
      exact ⟨s, rfl, rfl, hs⟩
    | none =>
      rw [ending?_cons_of_none hs] at h
      obtain ⟨⟨m, f⟩, hm, he⟩ := Option.map_eq_some_iff.1 h
      cases he
      obtain ⟨s', hget, hnone, hend⟩ := ih hm
      refine ⟨s', hget, ?_, hend⟩
      rw [List.take_succ_cons, ending?_cons_of_none hs, hnone]
      rfl

theorem endOf?_of_call {steps : List Step} {i : Nat} {n : Text} {r : Http.Request}
    (hi : steps[i]? = some (.call n r)) :
    endOf? steps i =
      (ending? n none (steps.drop (i + 1))).map fun (k, final) => (i + 1 + k, final) := by
  rw [endOf?, hi]

/-- More steps end no call that has ended, and they may end one that has not. -/
theorem endOf?_append {a : List Step} {i : Nat} {n : Text} {r : Http.Request}
    (hi : a[i]? = some (.call n r)) (b : List Step) :
    endOf? (a ++ b) i =
      (endOf? a i).or ((ending? n (settledBy n none (a.drop (i + 1))) b).map fun (k, final) =>
        (a.length + k, final)) := by
  obtain ⟨hlt, -⟩ := List.getElem?_eq_some_iff.1 hi
  have hi' : (a ++ b)[i]? = some (.call n r) := by rw [List.getElem?_append_left hlt, hi]
  rw [endOf?_of_call hi', endOf?_of_call hi, List.drop_append_of_le_length hlt, ending?_append]
  cases ending? n none (a.drop (i + 1)) with
  | some e => rfl
  | none =>
    have hlen : ∀ k, i + 1 + ((a.drop (i + 1)).length + k) = a.length + k := by
      intro k
      rw [List.length_drop]
      omega
    simp only [Option.none_or, Option.map_none, Option.map_map, Function.comp_def, hlen]

/-- The step that ends a call comes after it and is the first to do so. -/
theorem endOf?_some {steps : List Step} {i j : Nat} {final : Option Outcome}
    (h : endOf? steps i = some (j, final)) :
    ∃ n r s, steps[i]? = some (.call n r) ∧ i < j ∧ steps[j]? = some s ∧
      endOf? (steps.take j) i = none ∧
      s.ending? n (settledBy n none ((steps.take j).drop (i + 1))) = some final := by
  have hcall : ∃ n r, steps[i]? = some (.call n r) := by
    unfold endOf? at h
    split at h
    · next n r hi => exact ⟨n, r, hi⟩
    · cases h
  obtain ⟨n, r, hi⟩ := hcall
  rw [endOf?_of_call hi] at h
  obtain ⟨⟨k, final'⟩, hk, he⟩ := Option.map_eq_some_iff.1 h
  cases he
  obtain ⟨s, hget, hnone, hend⟩ := ending?_some hk
  have htake : (steps.take (i + 1 + k)).drop (i + 1) = (steps.drop (i + 1)).take k := by
    rw [List.drop_take, Nat.add_sub_cancel_left]
  have hi' : (steps.take (i + 1 + k))[i]? = some (.call n r) := by
    rw [List.getElem?_take_of_lt (by omega), hi]
  refine ⟨n, r, s, hi, by omega, ?_, ?_, ?_⟩
  · rw [← hget, List.getElem?_drop]
  · rw [endOf?_of_call hi', htake, hnone]
    rfl
  · rw [htake]
    exact hend

/-- A call has not ended in the first steps if the step that ends it comes later. -/
theorem endOf?_take {steps : List Step} {i m : Nat} {n : Text} {r : Http.Request}
    (hi : steps[i]? = some (.call n r)) (him : i < m) (hm : m ≤ steps.length) :
    endOf? (steps.take m) i = none ↔ ∀ e ∈ endOf? steps i, m ≤ e.1 := by
  have hi' : (steps.take m)[i]? = some (.call n r) := by
    rw [List.getElem?_take_of_lt him, hi]
  have hsplit := endOf?_append hi' (steps.drop m)
  rw [List.take_append_drop, List.length_take_of_le hm] at hsplit
  constructor
  · intro hnone e he
    rw [hsplit, hnone, Option.none_or] at he
    obtain ⟨⟨k, final⟩, -, rfl⟩ := Option.map_eq_some_iff.1 he
    exact Nat.le_add_right m k
  · intro h
    cases hend : endOf? (steps.take m) i with
    | none => rfl
    | some e =>
      obtain ⟨j, final⟩ := e
      obtain ⟨_, _, s, -, -, hj, -⟩ := endOf?_some hend
      obtain ⟨hlt, -⟩ := List.getElem?_eq_some_iff.1 hj
      have hle := h (j, final) (by rw [hsplit, hend]; rfl)
      rw [List.length_take_of_le hm] at hlt
      omega

/-- What ends a call in the first steps ends it in all of them. -/
theorem endOf?_of_take {steps : List Step} {i m : Nat} {e : Nat × Option Outcome}
    (h : endOf? (steps.take m) i = some e) : endOf? steps i = some e := by
  obtain ⟨n, r, _, hi, -⟩ := endOf?_some h
  rw [← List.take_append_drop m steps, endOf?_append hi, h]
  rfl

/-- Two calls do not end in the same step. -/
theorem endOf?_inj {steps : List Step} {i i' j : Nat} {final final' : Option Outcome}
    (h : endOf? steps i = some (j, final)) (h' : endOf? steps i' = some (j, final')) : i = i' := by
  have hle : ∀ {i i' : Nat} {final final' : Option Outcome}, endOf? steps i = some (j, final) →
      endOf? steps i' = some (j, final') → ¬ i < i' := by
    intro i i' final final' h h' hlt
    obtain ⟨n, r, s, hi, -, hj, -, hs⟩ := endOf?_some h
    obtain ⟨n', r', s', hi', hij', hj', -, hs'⟩ := endOf?_some h'
    obtain rfl := Option.some.inj (hj.symm.trans hj')
    obtain rfl := Option.some.inj ((Step.name?_of_ending? hs).symm.trans (Step.name?_of_ending? hs'))
    -- The later call has the same name, so it ends the earlier one if nothing else has before it.
    have hnone : endOf? (steps.take (i' + 1)) i = none := by
      obtain ⟨hlen, -⟩ := List.getElem?_eq_some_iff.1 hi'
      refine (endOf?_take hi (by omega) hlen).2 fun e he => ?_
      obtain rfl := Option.some.inj (h.symm.trans he)
      exact hij'
    have hcall : (steps.take i')[i]? = some (.call n r) := by
      rw [List.getElem?_take_of_lt hlt, hi]
    have hend : ∀ o, ending? n o [.call n r'] = some (0, none) := fun o =>
      ending?_cons_of_some (s := .call n r') (if_pos rfl) []
    rw [List.take_add_one, hi', Option.toList_some, endOf?_append hcall, hend,
      Option.or_eq_none_iff] at hnone
    cases hnone.2
  have := hle h h'
  have := hle h' h
  omega

end Session

end ServerTelemetry
