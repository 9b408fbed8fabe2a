import ServerTelemetry.Text.Utf8

/-!
# The route of a request

The route template of a request is rarely known when the request arrives. Every stage that learns a
route offers it to the request's holder, and the holder keeps the best one: a later stage knows
more and replaces what an earlier one offered; of one stage the first offer stands, except that the
stages that `mayImprove` replace their own route by a longer one. Length is measured in UTF-8
bytes. Empty routes are no offers.
-/

namespace ServerTelemetry

/-- The stage of request processing that offers a route. -/
inductive RouteSource where
  /-- A service around the whole router. -/
  | middleware
  /-- The router that dispatched the request. -/
  | router
  /-- The handler the router selected. -/
  | handler
  /-- A handler inside another handler. -/
  | nestedHandler
  deriving DecidableEq, Repr

/-- Later stages have the higher priority. -/
def RouteSource.priority : RouteSource → Nat
  | .middleware => 1
  | .router => 2
  | .handler => 3
  | .nestedHandler => 4

/-- Whether the stage may replace its own route by a longer one. -/
def RouteSource.mayImprove : RouteSource → Bool
  | .middleware | .nestedHandler => true
  | .router | .handler => false

/-- The holder of the best route known for one request. -/
structure RouteHolder where
  /-- The method as span names show it. -/
  method : Option Text
  /-- The best route so far and the stage that offered it. -/
  best : Option (RouteSource × Text)
  deriving DecidableEq, Repr

namespace RouteHolder

/-- A holder for a request with this method, no route known. -/
def new (method : Text) : RouteHolder :=
  ⟨some method, none⟩

/-- A holder that knows neither method nor route. -/
def empty : RouteHolder :=
  ⟨none, none⟩

/-- The best route so far. -/
def route (h : RouteHolder) : Option Text :=
  h.best.map Prod.snd

/-- The priority of the stage whose route is held, zero while there is none. -/
def priority (h : RouteHolder) : Nat :=
  match h.best with
  | some (source, _) => source.priority
  | none => 0

/-- Whether some route of this stage could replace the one held; only then is the route computed. -/
def considers (h : RouteHolder) (source : RouteSource) : Bool :=
  h.priority < source.priority || (source.priority == h.priority && source.mayImprove)

/-- Whether this route of this stage replaces the one held. -/
def replaces (h : RouteHolder) (source : RouteSource) (route : Text) : Bool :=
  match h.best with
  | none => true
  | some (holding, held) =>
    holding.priority < source.priority ||
      (source.priority == holding.priority && source.mayImprove
        && Text.utf8Length held < Text.utf8Length route)

/-- Offers what a stage computes, which may be nothing. Answers whether the route held changed. -/
def offerWith (h : RouteHolder) (source : RouteSource) (route : Option Text) : RouteHolder × Bool :=
  match route.bind Text.nonEmpty? with
  | some route =>
    if h.replaces source route then ({ h with best := some (source, route) }, true) else (h, false)
  | none => (h, false)

/-- Offers a route. Answers whether the route held changed. -/
def offer (h : RouteHolder) (source : RouteSource) (route : Text) : RouteHolder × Bool :=
  h.offerWith source (some route)

/-- The length of the route held, zero while there is none. -/
def heldLength (h : RouteHolder) : Nat :=
  Text.utf8Length (h.route.getD [])

/-- Offers a route that is computed on demand, where some route of the stage could replace the one
held; of the same stage only a longer one does. Answers whether the route held changed. -/
def offerLazily {m : Type → Type} [Monad m] (h : RouteHolder) (source : RouteSource)
    (compute : m (Option Text)) : m (RouteHolder × Bool) := do
  unless h.considers source do
    return (h, false)
  let some route := (← compute).bind Text.nonEmpty? | return (h, false)
  if source.priority == h.priority && Text.utf8Length route ≤ h.heldLength then
    return (h, false)
  return ({ h with best := some (source, route) }, true)

/-- Method and route, or whichever of the two is known. -/
def spanName (h : RouteHolder) : Text :=
  match h.method, h.route with
  | some method, some route => method ++ ' ' :: route
  | some method, none => method
  | none, some route => route
  | none, none => "HTTP".toList

@[simp] theorem route_new (method : Text) : (new method).route = none := rfl

/-- A route that replaces the one held comes from a stage the holder considers. -/
theorem considers_of_replaces {h : RouteHolder} {source : RouteSource} {route : Text}
    (hr : h.replaces source route = true) : h.considers source = true := by
  obtain ⟨method, best⟩ := h
  cases best with
  | none => cases source <;> rfl
  | some b => simp_all [replaces, considers, priority]; grind

end RouteHolder

end ServerTelemetry
