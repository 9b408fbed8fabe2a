import ServerTelemetry.Service

/-!
# Sessions

A session is a sequence of steps on one service with any number of calls in flight. Calls have names,
and a name may be used again: the call that had it before is dropped then. Every step answers with
the spans it closed, the events it logged and what the caller or the handler saw of it.
-/

namespace ServerTelemetry

/-- A call in flight, or what is left of it. -/
structure Call where
  /-- The request as the handler received it. -/
  received : Http.Request
  /-- The place of the route holder attached to that request. -/
  place : Option Nat
  future : Future
  /-- What the handler yields when it is polled next. -/
  outcome : Option Outcome
  /-- Whether the future has neither yielded nor been dropped. -/
  live : Bool
  deriving DecidableEq, Repr

/-- The call that has just been made. -/
def Call.start (called : Service.Called) : Call :=
  ⟨called.received, called.place, called.future, none, true⟩

/-- Whether a service takes requests. -/
inductive Readiness where
  | ready
  | pending
  | failed (error : Text)
  deriving DecidableEq, Repr

/-- What happens in a session; calls have names. -/
inductive Step where
  /-- The service is asked whether it takes requests, with the handler in this state. -/
  | ready (state : Readiness)
  /-- The service is called. A call of the same name is dropped afterwards. -/
  | call (name : Text) (request : Http.Request)
  /-- A route is offered to the request the handler received. -/
  | offer (name : Text) (source : RouteSource) (route : Text)
  /-- The handler has an outcome to yield. -/
  | settle (name : Text) (outcome : Outcome)
  | poll (name : Text)
  | drop (name : Text)
  deriving DecidableEq, Repr

/-- The call a step is about. -/
def Step.name? : Step → Option Text
  | ready _ => none
  | call name _ | offer name _ _ | settle name _ | poll name | drop name => some name

/-- What a step shows to the caller or to the handler. -/
inductive Report where
  | ready (state : Readiness)
  /-- The request as the handler received it, the holder on it, and whether it runs in a span. -/
  | received (request : Http.Request) (holder : Option RouteHolder) (inSpan : Bool)
  | offered (changed : Bool)
  /-- What the future yielded, if anything, and whether the handler was polled in a span. -/
  | polled (outcome : Option Outcome) (inSpan : Bool)
  /-- The future was complete or gone. -/
  | finished
  | none
  deriving DecidableEq, Repr

/-- All that can be observed of a step. -/
structure Observation where
  spans : List Span
  logs : List LogEvent
  /-- What the caller or the handler saw. -/
  report : Report
  deriving DecidableEq, Repr

/-- What is observed when spans are closed, in order. -/
def Observation.closing (closed : List Closed) (report : Report) : Observation :=
  ⟨closed.filterMap (·.span), closed.map (·.log), report⟩

/-- What is observed of a step that closes no span. -/
def Observation.quiet (report : Report) : Observation :=
  ⟨[], [], report⟩

/-- The calls of a session by name. -/
abbrev Session := List (Text × Call)

namespace Session

/-- The call with a name. -/
def find? (s : Session) (name : Text) : Option Call :=
  s.lookup name

/-- Puts a call in the place of the one with the same name. -/
def put (s : Session) (name : Text) (call : Call) : Session :=
  (name, call) :: s.filter fun (other, _) => other != name

@[simp] theorem find?_put_self (s : Session) (name : Text) (call : Call) :
    (s.put name call).find? name = some call := by
  simp only [put, find?, List.lookup_cons_self]

theorem find?_put_of_ne (s : Session) {name other : Text} (call : Call) (h : other ≠ name) :
    (s.put name call).find? other = s.find? other := by
  have hkeep : ∀ s : Session, (s.filter fun (o, _) => o != name).lookup other = s.lookup other := by
    intro s
    induction s with
    | nil => rfl
    | cons entry s ih =>
      obtain ⟨key, c⟩ := entry
      by_cases hk : key = name
      · subst hk
        rw [List.filter_cons_of_neg (by simp), ih, List.lookup_cons]
        simp only [beq_false_of_ne h]
      · rw [List.filter_cons_of_pos (by simpa using hk), List.lookup_cons, List.lookup_cons, ih]
  simp only [put, find?, List.lookup_cons, beq_false_of_ne h]
  exact hkeep s

/-- A session under way. -/
structure State where
  calls : Session := []
  /-- What they share with each other. -/
  shared : Shared := {}
  deriving DecidableEq, Repr

namespace State

/-- The state with another call of this name. -/
def put (t : State) (name : Text) (call : Call) : State :=
  { t with calls := t.calls.put name call }

/-- Calls the service. The call that had the name is dropped once the service has answered. -/
def call (service : Service) (t : State) (name : Text) (request : Http.Request) :
    State × Observation :=
  let (called, w) := service.call request t.shared
  let closed := (t.calls.find? name).toList.flatMap fun old => (old.future.drop w).2
  ({ t with shared := w }.put name (.start called),
    .closing closed (.received called.received (called.place.bind w.holder?) called.inSpan))

/-- Offers a route to the request a handler received; without a holder on it nothing happens. -/
def offer (t : State) (call : Call) (source : RouteSource) (route : Text) : State × Observation :=
  match call.place with
  | some place =>
    let (w, changed) := t.shared.offer place source route
    ({ t with shared := w }, .quiet (.offered changed))
  | none => (t, .quiet (.offered false))

/-- Polls the future of a call, unless it is complete or gone. -/
def poll (t : State) (name : Text) (call : Call) : State × Observation :=
  if call.live then
    let (polled, w) := call.future.poll call.outcome t.shared
    ({ t with shared := w }.put name
        { call with future := polled.future, live := call.outcome.isNone },
      .closing polled.closed (.polled call.outcome polled.inSpan))
  else (t, .quiet .finished)

/-- Drops the future of a call. -/
def drop (t : State) (name : Text) (call : Call) : State × Observation :=
  let (left, closed) := call.future.drop t.shared
  (t.put name { call with future := left, live := false }, .closing closed .none)

/-- One step of a session. -/
def step (service : Service) (t : State) : Step → State × Observation
  | .ready state => (t, .quiet (.ready state))
  | .call name request => t.call service name request
  | .offer name source route =>
    match t.calls.find? name with
    | some call => t.offer call source route
    | none => (t, .quiet (.offered false))
  | .settle name outcome =>
    match t.calls.find? name with
    | some call => (t.put name { call with outcome := some outcome }, .quiet .none)
    | none => (t, .quiet .none)
  | .poll name =>
    match t.calls.find? name with
    | some call => t.poll name call
    | none => (t, .quiet .finished)
  | .drop name =>
    match t.calls.find? name with
    | some call => t.drop name call
    | none => (t, .quiet .none)

/-- What is observed of a sequence of steps. -/
def run (service : Service) (t : State) : List Step → List Observation
  | [] => []
  | step :: steps =>
    let (t, observation) := t.step service step
    observation :: t.run service steps

/-- The state after a sequence of steps. -/
def after (service : Service) (t : State) (steps : List Step) : State :=
  steps.foldl (fun t step => (t.step service step).1) t

end State

/-- What is observed of a sequence of steps in a process that has done nothing else, with these
calls. -/
def run (service : Service) (s : Session) (steps : List Step) : List Observation :=
  State.run service { calls := s } steps

end Session

end ServerTelemetry
