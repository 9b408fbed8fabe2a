import Mathlib.Tactic.Tauto
import ServerTelemetry.Session

/-!
# What calls and polls do with what requests share

A call and a poll attach contexts while the handler runs and leave none behind, and neither touches a
holder that is there already. So all that polling or dropping a future does is said by the spans it
has open (`Future.poll_some`, `Future.poll_none`, `Future.drop_eq`), and all that a call adds to the
store are its own holders (`Service.enter_moved`).

A call only ever compares places by finding holders there: on a store with `d` more holders in front,
the same call comes to the same with every place moved by `d`.
-/

namespace ServerTelemetry

/-! ## The spans of a future -/

namespace Future

/-- The spans a future has open, the outermost first. -/
def spans (f : Future) : List OpenSpan :=
  f.filterMap id

/-- The future without its spans. -/
def taken (f : Future) : Future :=
  f.map fun _ => none

/-- The spans a future has open in the order they are closed in: the innermost first where it yields an
outcome, the outermost first where it is dropped. -/
def closingOrder (f : Future) : Option Outcome → List OpenSpan
  | some _ => f.spans.reverse
  | none => f.spans

/-- The context its handler runs in: the innermost span's, else the current one. -/
def context (current : Parent) : Future → Parent
  | [] => current
  | none :: f => context current f
  | some span :: f => context span.context f

@[simp] theorem spans_nil : spans [] = [] := rfl

@[simp] theorem spans_cons_none (f : Future) : spans (none :: f) = spans f := rfl

@[simp] theorem spans_cons_some (span : OpenSpan) (f : Future) :
    spans (some span :: f) = span :: spans f := rfl

@[simp] theorem spans_taken (f : Future) : f.taken.spans = [] := by
  induction f with
  | nil => rfl
  | cons span f ih => exact ih

/-- A poll without an outcome leaves everything as it is. -/
theorem poll_none (f : Future) (w : Shared) :
    poll none f w = (⟨f, [], (f.context w.current).inSpan⟩, w) := by
  induction f generalizing w with
  | nil => rfl
  | cons span f ih =>
    cases span with
    | none => simp only [poll, ih, context]
    | some span =>
      simp only [poll, ih, context, Shared.current_attach, Shared.detach_attach]

/-- A poll with an outcome closes all spans, the innermost first. -/
theorem poll_some (o : Outcome) (f : Future) (w : Shared) :
    poll (some o) f w =
      (⟨f.taken, f.spans.reverse.map fun s => s.close (w.holderAt s.place) (some o),
        (f.context w.current).inSpan⟩, w) := by
  induction f generalizing w with
  | nil => rfl
  | cons span f ih =>
    cases span with
    | none => simp only [poll, ih, context, spans_cons_none, taken, List.map_cons]
    | some span =>
      simp only [poll, ih, context, Shared.current_attach, Shared.detach_attach,
        Shared.holderAt_attach, spans_cons_some, List.reverse_cons, List.map_append, List.map_cons,
        List.map_nil, taken]

/-- Dropping closes all spans, the outermost first. -/
theorem drop_eq (w : Shared) (f : Future) :
    f.drop w = (f.taken, f.spans.map fun s => s.close (w.holderAt s.place) none) := by
  induction f with
  | nil => rfl
  | cons span f ih =>
    cases span with
    | none => simp only [drop, ih, spans_cons_none, taken, List.map_cons]; rfl
    | some span => simp only [drop, ih, spans_cons_some, taken, List.map_cons]; rfl

end Future

/-! ## The places a call has a hold of -/

/-- The places behind a request's holder and behind the spans of a future. -/
def placesOf (place : Option Nat) (future : Future) : List Nat :=
  place.toList ++ future.spans.map (·.place)

/-- The places behind what comes of a call. -/
def Service.Called.places (c : Called) : List Nat :=
  placesOf c.place c.future

/-- The places a call has a hold of. -/
def Call.places (c : Call) : List Nat :=
  placesOf c.place c.future

/-- The call once its future has yielded or is gone: no span is open any more. -/
def Call.ended (c : Call) : Call :=
  { c with future := c.future.taken, live := false }

/-- A call whose spans are taken has a hold of no more places than it had. -/
theorem Call.places_ended {c : Call} {p : Nat} (hp : p ∈ c.ended.places) : p ∈ c.places := by
  simp only [places, placesOf, ended, Future.spans_taken, List.map_nil, List.append_nil] at hp ⊢
  exact List.mem_append_left _ hp

/-! ## Moving places -/

/-- The span with its holder's place moved. -/
def OpenSpan.moved (d : Nat) (s : OpenSpan) : OpenSpan :=
  { s with place := s.place + d }

/-- The future with all places moved. -/
def Future.moved (d : Nat) (f : Future) : Future :=
  f.map (Option.map (·.moved d))

/-- What comes of a call, with all places moved. -/
def Service.Called.moved (d : Nat) (c : Called) : Called :=
  { c with place := c.place.map (· + d), future := c.future.moved d }

/-- The call with all places moved. -/
def Call.moved (d : Nat) (c : Call) : Call :=
  { c with place := c.place.map (· + d), future := c.future.moved d }

namespace Future

@[simp] theorem spans_moved (d : Nat) (f : Future) :
    (f.moved d).spans = f.spans.map (·.moved d) := by
  induction f with
  | nil => rfl
  | cons span f ih =>
    cases span with
    | none => exact ih
    | some span => exact congrArg (span.moved d :: ·) ih

@[simp] theorem taken_moved (d : Nat) (f : Future) : (f.moved d).taken = f.taken.moved d := by
  simp only [taken, moved, List.map_map]
  rfl

theorem context_moved (d : Nat) (current : Parent) (f : Future) :
    (f.moved d).context current = f.context current := by
  induction f generalizing current with
  | nil => rfl
  | cons span f ih =>
    cases span with
    | none => exact ih current
    | some span => exact ih span.context

end Future

theorem Call.places_moved (d : Nat) (c : Call) :
    (c.moved d).places = c.places.map (· + d) := by
  have hplace : (c.place.map (· + d)).toList = c.place.toList.map (· + d) := by
    cases c.place <;> rfl
  simp only [places, placesOf, moved, Future.spans_moved, List.map_append, List.map_map, hplace]
  rfl

theorem Call.ended_moved (d : Nat) (c : Call) : (c.moved d).ended = c.ended.moved d := by
  simp only [ended, moved, Future.taken_moved]

/-- Where a span was opened does not matter to what is seen of it, only what its holder holds. -/
@[simp] theorem OpenSpan.close_moved (d : Nat) (s : OpenSpan) (holder : RouteHolder)
    (outcome : Option Outcome) : (s.moved d).close holder outcome = s.close holder outcome := rfl

namespace Service

theorem enter_nil (s : Service) (request : Http.Request) (place : Option Nat) (w : Shared) :
    s.enter [] request place w = (⟨request, place, w.current.inSpan, []⟩, w) := rfl

theorem enter_enabled (s : Service) {layer : Layer} (h : layer.enabled = true)
    (layers : List Layer) (request : Http.Request) (place : Option Nat) (w : Shared) :
    s.enter (layer :: layers) request place w =
      let span := s.opened layer request w
      let inside := s.enter layers span.request (some span.place)
        ((w.keep (OpenSpan.freshHolder layer.extractor request)).attach span.context)
      ({ inside.1 with future := some span :: inside.1.future }, inside.2.detach) := by
  simp only [enter, h, ↓reduceIte]

theorem enter_disabled (s : Service) {layer : Layer} (h : layer.enabled = false)
    (layers : List Layer) (request : Http.Request) (place : Option Nat) (w : Shared) :
    s.enter (layer :: layers) request place w =
      let inside := s.enter layers request place w
      ({ inside.1 with future := none :: inside.1.future }, inside.2) := by
  simp only [enter, h, Bool.false_eq_true, ↓reduceIte]

/-- The span a layer opens depends on the store only in its place. -/
theorem opened_moved (s : Service) (layer : Layer) (request : Http.Request) {d : Nat}
    {w v : Shared} (hatt : w.attached = v.attached)
    (hlen : w.holders.length = v.holders.length + d) :
    s.opened layer request w = (s.opened layer request v).moved d := by
  simp only [opened, Shared.current, Shared.depth, Shared.next, hatt, hlen]
  rfl

/-- **A call is alike wherever its holders are kept**: on two stores with the same contexts attached,
of which one has `d` more holders, it comes to the same up to places, adds the same holders and
leaves the attached contexts as they were. -/
theorem enter_moved (s : Service) (d : Nat) :
    ∀ (layers : List Layer) (request : Http.Request) (place : Option Nat) (w v : Shared),
      w.attached = v.attached → w.holders.length = v.holders.length + d →
      ∃ new, s.enter layers request (place.map (· + d)) w =
          ((s.enter layers request place v).1.moved d, { w with holders := w.holders ++ new }) ∧
        (s.enter layers request place v).2 = { v with holders := v.holders ++ new } := by
  intro layers
  induction layers with
  | nil =>
    intro request place w v hatt _
    refine ⟨[], ?_, ?_⟩
    · simp only [enter_nil, Called.moved, Shared.current, hatt, List.append_nil]
      cases w; cases hatt; rfl
    · simp only [enter_nil, List.append_nil]
  | cons layer layers ih =>
    intro request place w v hatt hlen
    cases hen : layer.enabled with
    | false =>
      obtain ⟨new, hw, hv⟩ := ih request place w v hatt hlen
      refine ⟨new, ?_, ?_⟩
      · rw [enter_disabled s hen, enter_disabled s hen, hw]
        rfl
      · rw [enter_disabled s hen]
        exact hv
    | true =>
      have hspan := opened_moved s layer request hatt hlen
      -- Each store gets one more holder, so for the layers inside they are still `d` apart.
      let span := s.opened layer request v
      let holder := OpenSpan.freshHolder layer.extractor request
      obtain ⟨new, hw, hv⟩ := ih span.request (some span.place)
        ((w.keep holder).attach span.context) ((v.keep holder).attach span.context)
        (by simp only [Shared.attach, Shared.keep, hatt])
        (by simp only [Shared.attach, Shared.keep, List.length_append, hlen]; omega)
      refine ⟨holder :: new, ?_, ?_⟩
      · have hin : s.enter layers (span.moved d).request (some (span.moved d).place)
            ((w.keep holder).attach (span.moved d).context) = _ := hw
        rw [enter_enabled s hen, enter_enabled s hen, hspan]
        simp only [holder, span] at hin
        simp only [hin]
        simp only [Called.moved, Future.moved, List.map_cons, Option.map_some, Shared.detach,
          Shared.attach, Shared.keep, List.append_assoc, List.singleton_append, List.tail_cons]
        rfl
      · rw [enter_enabled s hen]
        change Shared.detach (s.enter layers span.request (some span.place)
          ((v.keep holder).attach span.context)).2 = _
        rw [hv]
        simp only [Shared.detach, Shared.attach, Shared.keep, List.append_assoc,
          List.singleton_append, List.tail_cons]

/-- A call adds holders to the store and changes nothing else that is shared. -/
theorem enter_shared (s : Service) (layers : List Layer) (request : Http.Request)
    (place : Option Nat) (w : Shared) :
    ∃ new, (s.enter layers request place w).2 = { w with holders := w.holders ++ new } := by
  obtain ⟨new, -, h⟩ := s.enter_moved 0 layers request place w w rfl rfl
  exact ⟨new, h⟩

/-- The places a call hands out are new, but for the one the request came with. -/
theorem enter_places (s : Service) :
    ∀ (layers : List Layer) (request : Http.Request) (place : Option Nat) (w : Shared) (p : Nat),
      p ∈ (s.enter layers request place w).1.places →
        p ∈ place ∨ w.next ≤ p ∧ p < (s.enter layers request place w).2.next := by
  intro layers
  induction layers with
  | nil =>
    intro request place w p hp
    simp only [enter_nil, Called.places, placesOf, Future.spans_nil, List.map_nil, List.append_nil,
      Option.mem_toList] at hp
    exact Or.inl hp
  | cons layer layers ih =>
    intro request place w p hp
    cases hen : layer.enabled with
    | false =>
      rw [enter_disabled s hen] at hp ⊢
      exact ih request place w p hp
    | true =>
      rw [enter_enabled s hen] at hp ⊢
      let span := s.opened layer request w
      let inside := (w.keep (OpenSpan.freshHolder layer.extractor request)).attach span.context
      obtain ⟨new, hnew⟩ := s.enter_shared layers span.request (some span.place) inside
      have hle : w.next < (s.enter layers span.request (some span.place) inside).2.next := by
        rw [hnew]
        simp only [Shared.next, inside, Shared.attach, Shared.keep, List.length_append,
          List.length_singleton]
        omega
      right
      have hp' : p = span.place ∨
          p ∈ (s.enter layers span.request (some span.place) inside).1.places := by
        simp only [Called.places, placesOf, Future.spans_cons_some, List.map_cons, List.mem_append,
          List.mem_cons] at hp ⊢
        tauto
      have hplace : span.place = w.next := rfl
      rcases hp' with rfl | hp'
      · exact ⟨Nat.le_of_eq hplace.symm, hle⟩
      · rcases ih span.request (some span.place) inside p hp' with h | ⟨hlo, hhi⟩
        · obtain rfl := Option.mem_some_iff.1 h
          exact ⟨Nat.le_of_eq hplace.symm, hle⟩
        · refine ⟨Nat.le_trans ?_ hlo, hhi⟩
          simp only [Shared.next, inside, Shared.attach, Shared.keep, List.length_append]
          omega

theorem inject_route (s : Service) (r : Http.Request) : (s.inject r).route = r.route := by
  unfold inject
  split <;> rfl

theorem inject_headers (s : Service) (r : Http.Request) : (s.inject r).headers = r.headers := by
  unfold inject
  split <;> rfl

theorem inject_target (s : Service) (r : Http.Request) :
    (s.inject r).method = r.method ∧ (s.inject r).uri = r.uri := by
  unfold inject
  split <;> exact ⟨rfl, rfl⟩

theorem call_some (s : Service) {request : Http.Request} {holder : RouteHolder}
    (h : (s.inject request).route = some holder) (w : Shared) :
    s.call request w = s.enter s.layers (s.inject request) (some w.next) (w.keep holder) := by
  simp only [call, h]

theorem call_none (s : Service) {request : Http.Request} (h : (s.inject request).route = none)
    (w : Shared) : s.call request w = s.enter s.layers (s.inject request) none w := by
  simp only [call, h]

/-- A call goes through the layers with the holder the request came with, if it came with one. -/
theorem call_eq_enter (s : Service) (request : Http.Request) (w : Shared) :
    s.call request w = s.enter s.layers (s.inject request)
      ((s.inject request).route.map fun _ => w.next) ((s.inject request).route.elim w w.keep) := by
  cases h : (s.inject request).route with
  | none => exact s.call_none h w
  | some holder => exact s.call_some h w

/-- A service is called alike wherever holders are kept. -/
theorem call_moved (s : Service) (request : Http.Request) {d : Nat} {w v : Shared}
    (hatt : w.attached = v.attached) (hlen : w.holders.length = v.holders.length + d) :
    ∃ new, s.call request w =
        ((s.call request v).1.moved d, { w with holders := w.holders ++ new }) ∧
      (s.call request v).2 = { v with holders := v.holders ++ new } := by
  cases h : (s.inject request).route with
  | none =>
    rw [call_none s h, call_none s h]
    exact s.enter_moved d s.layers (s.inject request) none w v hatt hlen
  | some holder =>
    rw [call_some s h, call_some s h]
    obtain ⟨new, hw, hv⟩ := s.enter_moved d s.layers (s.inject request) (some v.next)
      (w.keep holder) (v.keep holder) hatt
      (by simp only [Shared.keep, List.length_append, hlen]; omega)
    refine ⟨holder :: new, ?_, ?_⟩
    · have hnext : some w.next = (some v.next).map (· + d) := congrArg some hlen
      rw [hnext, hw]
      simp only [Shared.keep, List.append_assoc, List.singleton_append]
    · rw [hv]
      simp only [Shared.keep, List.append_assoc, List.singleton_append]

/-- A call to a service adds holders to the store and changes nothing else that is shared. -/
theorem call_shared (s : Service) (request : Http.Request) (w : Shared) :
    ∃ new, (s.call request w).2 = { w with holders := w.holders ++ new } := by
  obtain ⟨new, -, h⟩ := s.call_moved request (d := 0) (w := w) (v := w) rfl rfl
  exact ⟨new, h⟩

/-- The places a call to a service hands out are all new. -/
theorem call_places (s : Service) (request : Http.Request) (w : Shared) {p : Nat}
    (hp : p ∈ (s.call request w).1.places) :
    w.next ≤ p ∧ p < (s.call request w).2.next := by
  cases h : (s.inject request).route with
  | none =>
    rw [call_none s h] at hp ⊢
    rcases s.enter_places _ _ _ _ p hp with hn | hp
    · cases hn
    · exact hp
  | some holder =>
    rw [call_some s h] at hp ⊢
    have hkeep : (w.keep holder).next = w.next + 1 := by
      simp only [Shared.next, Shared.keep, List.length_append, List.length_singleton]
    rcases s.enter_places _ _ _ _ p hp with hn | ⟨hlo, hhi⟩
    · obtain rfl := Option.mem_some_iff.1 hn
      obtain ⟨new, hnew⟩ := s.enter_shared s.layers (s.inject request) (some w.next) (w.keep holder)
      refine ⟨Nat.le_refl _, ?_⟩
      rw [hnew]
      simp only [Shared.next, Shared.keep, List.length_append, List.length_singleton]
      omega
    · exact ⟨by omega, hhi⟩

end Service

end ServerTelemetry
