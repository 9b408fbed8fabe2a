import ServerTelemetry.Proofs.Session.Futures

/-!
# What keeps the calls of a session apart

Between the steps of a session no context is attached, every place a call has a hold of is in the
store, and no two calls have a hold of one place (`Private`). Every step keeps this (`Private.step`),
so it holds of all states a session comes to (`private_after`).

A step about one call therefore leaves all others as they are (`step_find?_of_ne`), and what their
holders hold as well (`Private.holder?_step`).
-/

namespace ServerTelemetry

/-- Whether a step calls the service. -/
def Step.isCall : Step → Bool
  | call _ _ => true
  | _ => false

namespace Session.State

/-! ## The parts of a step -/

/-- A poll of a future whose handler has nothing to yield yet. -/
theorem poll_pending (t : State) (name : Text) {c : Call} (hlive : c.live = true)
    (hout : c.outcome = none) :
    t.poll name c =
      (t.put name c, .quiet (.polled none (c.future.context t.shared.current).inSpan)) := by
  obtain ⟨received, place, future, outcome, live⟩ := c
  subst hlive hout
  simp only [poll, ↓reduceIte, Future.poll_none, Option.isNone_none]
  rfl

/-- A poll of a future whose handler has something to yield. -/
theorem poll_ready (t : State) (name : Text) {c : Call} {o : Outcome} (hlive : c.live = true)
    (hout : c.outcome = some o) :
    t.poll name c =
      (t.put name c.ended,
        .closing
          (c.future.spans.reverse.map fun s => s.close (t.shared.holderAt s.place) (some o))
          (.polled (some o) (c.future.context t.shared.current).inSpan)) := by
  simp only [poll, hlive, ↓reduceIte, hout, Future.poll_some, Option.isNone_some, Call.ended]

/-- A poll of a future that is complete or gone. -/
theorem poll_dead (t : State) (name : Text) {c : Call} (hlive : c.live = false) :
    t.poll name c = (t, .quiet .finished) := by
  simp only [poll, hlive, Bool.false_eq_true, ↓reduceIte]

theorem call_eq (service : Service) (t : State) (name : Text) (request : Http.Request) :
    t.call service name request =
      let called := (service.call request t.shared).1
      let w := (service.call request t.shared).2
      ({ t with shared := w }.put name (.start called),
        .closing
          ((t.calls.find? name).toList.flatMap fun old =>
            old.future.spans.map fun s => s.close (w.holderAt s.place) none)
          (.received called.received (called.place.bind w.holder?) called.inSpan)) := by
  simp only [call, Future.drop_eq]

theorem drop_eq (t : State) (name : Text) (c : Call) :
    t.drop name c =
      (t.put name c.ended,
        .closing (c.future.spans.map fun s => s.close (t.shared.holderAt s.place) none) .none) := by
  simp only [drop, Future.drop_eq]
  rfl

/-- An offer closes no span. It succeeds if it changes the route at the place of the request's holder. -/
theorem offer_observed (t : State) (c : Call) (source : RouteSource) (route : Text) :
    (t.offer c source route).2 =
      .quiet (.offered (((c.place.bind t.shared.holder?).map fun h =>
        (h.offer source route).2).getD false)) := by
  cases hp : c.place with
  | none => simp only [offer, hp]; rfl
  | some place => simp only [offer, hp, Shared.offer_changed, Option.bind_some]

@[simp] theorem offer_calls (t : State) (c : Call) (source : RouteSource) (route : Text) :
    (t.offer c source route).1.calls = t.calls := by
  unfold offer
  split <;> rfl

@[simp] theorem offer_attached (t : State) (c : Call) (source : RouteSource) (route : Text) :
    (t.offer c source route).1.shared.attached = t.shared.attached := by
  unfold offer
  split
  · exact Shared.offer_attached ..
  · rfl

@[simp] theorem offer_next (t : State) (c : Call) (source : RouteSource) (route : Text) :
    (t.offer c source route).1.shared.next = t.shared.next := by
  unfold offer
  split
  · exact Shared.offer_length ..
  · rfl

/-- An offer through a call's request leaves alone all holders the call has no hold of. -/
theorem offer_holder?_of_notMem (t : State) (c : Call) (source : RouteSource) (route : Text)
    {p : Nat} (hp : p ∉ c.places) :
    (t.offer c source route).1.shared.holder? p = t.shared.holder? p := by
  unfold offer
  split
  · next place hplace =>
    have hne : p ≠ place := by
      rintro rfl
      exact hp (List.mem_append_left _ (Option.mem_toList.2 hplace))
    change (t.shared.offer place source route).1.holder? p = _
    rw [Shared.holder?_offer, if_neg hne]
  · rfl

/-- A poll leaves alone what the calls share. -/
theorem poll_shared (t : State) (name : Text) (c : Call) : (t.poll name c).1.shared = t.shared := by
  cases hlive : c.live with
  | false => rw [poll_dead t name hlive]
  | true =>
    cases hout : c.outcome with
    | none => rw [poll_pending t name hlive hout]; rfl
    | some o => rw [poll_ready t name hlive hout]; rfl

/-- A poll leaves alone the calls with other names. -/
theorem poll_find?_of_ne (t : State) {name other : Text} (c : Call) (h : other ≠ name) :
    (t.poll name c).1.calls.find? other = t.calls.find? other := by
  cases hlive : c.live with
  | false => rw [poll_dead t name hlive]
  | true =>
    cases hout : c.outcome with
    | none => rw [poll_pending t name hlive hout]; exact find?_put_of_ne _ _ h
    | some o => rw [poll_ready t name hlive hout]; exact find?_put_of_ne _ _ h

/-- A step about one call leaves alone the calls with other names. -/
theorem step_find?_of_ne (service : Service) (t : State) {s : Step} {n : Text}
    (hs : s.name? ≠ some n) : (t.step service s).1.calls.find? n = t.calls.find? n := by
  have hne : ∀ {m : Text}, s.name? = some m → n ≠ m := by
    rintro m hm rfl
    exact hs hm
  cases s with
  | ready state => rfl
  | call m r => exact find?_put_of_ne _ _ (hne rfl)
  | offer m source route =>
    simp only [step]
    split
    · rw [offer_calls]
    · rfl
  | settle m o =>
    simp only [step]
    split
    · exact find?_put_of_ne _ _ (hne rfl)
    · rfl
  | poll m =>
    simp only [step]
    split
    · exact poll_find?_of_ne t _ (hne rfl)
    · rfl
  | drop m =>
    simp only [step]
    split
    · exact find?_put_of_ne _ _ (hne rfl)
    · rfl

/-! ## The invariant -/

/-- What keeps the calls of a session apart. -/
structure Private (t : State) : Prop where
  attached : t.shared.attached = []
  place_lt : ∀ {n : Text} {c : Call} {p : Nat},
    t.calls.find? n = some c → p ∈ c.places → p < t.shared.next
  apart : ∀ {m n : Text} {c d : Call} {p : Nat}, m ≠ n →
    t.calls.find? m = some c → t.calls.find? n = some d → p ∈ c.places → p ∉ d.places

namespace Private

/-- A session begins without calls. -/
theorem initial : Private {} :=
  ⟨rfl, fun h => (by cases h), fun _ h => (by cases h)⟩

/-- Putting a call that has a hold of places of its own. -/
theorem put {t : State} (h : Private t) {w : Shared} {n : Text} {c : Call}
    (hatt : w.attached = []) (hnext : t.shared.next ≤ w.next)
    (hlt : ∀ p ∈ c.places, p < w.next)
    (hown : ∀ m d, m ≠ n → t.calls.find? m = some d → ∀ p ∈ c.places, p ∉ d.places) :
    Private ({ t with shared := w }.put n c) := by
  have hfind : ∀ {m d}, m ≠ n → ({ t with shared := w }.put n c).calls.find? m = some d →
      t.calls.find? m = some d := by
    intro m d hm hd
    rwa [State.put, find?_put_of_ne _ _ hm] at hd
  have hself : ∀ {d}, ({ t with shared := w }.put n c).calls.find? n = some d → d = c := by
    intro d hd
    rw [State.put, find?_put_self] at hd
    exact (Option.some.inj hd).symm
  refine ⟨hatt, ?_, ?_⟩
  · intro m d p hd hp
    by_cases hm : m = n
    · subst hm
      obtain rfl := hself hd
      exact hlt p hp
    · exact Nat.lt_of_lt_of_le (h.place_lt (hfind hm hd) hp) hnext
  · intro m k a b p hmk ha hb hp hq
    by_cases hm : m = n
    · subst hm
      obtain rfl := hself ha
      exact hown k b hmk.symm (hfind hmk.symm hb) p hp hq
    · by_cases hk : k = n
      · subst hk
        obtain rfl := hself hb
        exact hown m a hm (hfind hm ha) p hq hp
      · exact h.apart hmk (hfind hm ha) (hfind hk hb) hp hq

/-- Putting back a call that has a hold of no more places than it had. -/
theorem put_back {t : State} (h : Private t) {n : Text} {c c' : Call}
    (hc : t.calls.find? n = some c) (hsub : ∀ p ∈ c'.places, p ∈ c.places) :
    Private (t.put n c') :=
  h.put h.attached (Nat.le_refl _) (fun p hp => h.place_lt hc (hsub p hp))
    fun _ _ hm hd p hp => h.apart hm.symm hc hd (hsub p hp)

theorem call {t : State} (h : Private t) (service : Service) (n : Text) (r : Http.Request) :
    Private (t.call service n r).1 := by
  obtain ⟨new, hnew⟩ := service.call_shared r t.shared
  have hle : t.shared.next ≤ (service.call r t.shared).2.next := by
    rw [hnew]
    simp only [Shared.next, List.length_append]
    omega
  have hatt : (service.call r t.shared).2.attached = [] := by
    rw [hnew]
    exact h.attached
  rw [call_eq]
  refine h.put hatt hle ?_ ?_
  · exact fun p hp => (service.call_places r t.shared hp).2
  · intro m d _ hd p hp hpd
    have hge := (service.call_places r t.shared hp).1
    have hlt := h.place_lt hd hpd
    omega

theorem offer {t : State} (h : Private t) (c : Call) (source : RouteSource) (route : Text) :
    Private (t.offer c source route).1 := by
  refine ⟨?_, ?_, ?_⟩
  · rw [offer_attached]
    exact h.attached
  · intro n d p hd hp
    rw [offer_calls] at hd
    rw [offer_next]
    exact h.place_lt hd hp
  · intro m n a b p hmn ha hb
    rw [offer_calls] at ha hb
    exact h.apart hmn ha hb

theorem poll {t : State} (h : Private t) {n : Text} {c : Call} (hc : t.calls.find? n = some c) :
    Private (t.poll n c).1 := by
  cases hlive : c.live with
  | false =>
    rw [poll_dead t n hlive]
    exact h
  | true =>
    cases hout : c.outcome with
    | none =>
      rw [poll_pending t n hlive hout]
      exact h.put_back hc fun p hp => hp
    | some o =>
      rw [poll_ready t n hlive hout]
      exact h.put_back hc fun p hp => Call.places_ended hp

theorem drop {t : State} (h : Private t) {n : Text} {c : Call} (hc : t.calls.find? n = some c) :
    Private (t.drop n c).1 := by
  rw [drop_eq]
  exact h.put_back hc fun p hp => Call.places_ended hp

/-- Every step keeps the calls apart. -/
theorem step {t : State} (h : Private t) (service : Service) (s : Step) :
    Private (t.step service s).1 := by
  cases s with
  | ready state => exact h
  | call n r => exact h.call service n r
  | offer n source route =>
    simp only [State.step]
    split
    · exact h.offer _ source route
    · exact h
  | settle n o =>
    simp only [State.step]
    split
    · next c hc => exact h.put_back hc fun p hp => hp
    · exact h
  | poll n =>
    simp only [State.step]
    split
    · next c hc => exact h.poll hc
    · exact h
  | drop n =>
    simp only [State.step]
    split
    · next c hc => exact h.drop hc
    · exact h

/-- A step about one call leaves alone what the holders of all others hold. -/
theorem holder?_step {t : State} (h : Private t) (service : Service) {s : Step} {n : Text} {c : Call}
    (hs : s.name? ≠ some n) (hc : t.calls.find? n = some c) {p : Nat} (hp : p ∈ c.places) :
    (t.step service s).1.shared.holder? p = t.shared.holder? p := by
  cases s with
  | ready state => rfl
  | call m r =>
    obtain ⟨new, hnew⟩ := service.call_shared r t.shared
    simp only [State.step, call_eq, State.put, hnew]
    exact List.getElem?_append_left (h.place_lt hc hp)
  | offer m source route =>
    have hne : n ≠ m := by
      rintro rfl
      exact hs rfl
    simp only [State.step]
    split
    · next d hd => exact offer_holder?_of_notMem t d source route (h.apart hne hc hd hp)
    · rfl
  | settle m o =>
    simp only [State.step]
    split <;> rfl
  | poll m =>
    simp only [State.step]
    split
    · rw [poll_shared]
    · rfl
  | drop m =>
    simp only [State.step]
    split
    · rw [drop_eq]
      rfl
    · rfl

end Private

/-! ## Runs -/

@[simp] theorem after_nil (service : Service) (t : State) : t.after service [] = t := rfl

@[simp] theorem after_cons (service : Service) (t : State) (s : Step) (steps : List Step) :
    t.after service (s :: steps) = (t.step service s).1.after service steps := rfl

theorem after_append (service : Service) (t : State) (a b : List Step) :
    t.after service (a ++ b) = (t.after service a).after service b :=
  List.foldl_append

theorem run_append (service : Service) (t : State) (a b : List Step) :
    t.run service (a ++ b) = t.run service a ++ (t.after service a).run service b := by
  induction a generalizing t with
  | nil => rfl
  | cons s a ih => exact congrArg (_ :: ·) (ih (t.step service s).1)

@[simp] theorem run_length (service : Service) (t : State) (steps : List Step) :
    (t.run service steps).length = steps.length := by
  induction steps generalizing t with
  | nil => rfl
  | cons s steps ih => exact congrArg (· + 1) (ih (t.step service s).1)

/-- What is observed of a step depends on the steps before it alone. -/
theorem getElem?_run (service : Service) (t : State) (steps : List Step) (i : Nat) :
    (t.run service steps)[i]? =
      steps[i]?.map fun s => ((t.after service (steps.take i)).step service s).2 := by
  induction steps generalizing t i with
  | nil => rfl
  | cons s steps ih =>
    cases i with
    | zero => rfl
    | succ i => exact ih (t.step service s).1 i

/-- **The calls of a session stay apart**, whatever happens in it. -/
theorem private_after (service : Service) (steps : List Step) :
    Private (State.after service {} steps) := by
  have hrun : ∀ (steps : List Step) (t : State), Private t → Private (t.after service steps) := by
    intro steps
    induction steps with
    | nil => exact fun t h => h
    | cons s steps ih => exact fun t h => ih _ (h.step service s)
  exact hrun steps {} .initial

end Session.State

end ServerTelemetry
