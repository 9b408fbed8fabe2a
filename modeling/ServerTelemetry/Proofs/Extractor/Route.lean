import ServerTelemetry.Extractor
import ServerTelemetry.Proofs.Route.Offer

/-!
# The route in attributes and span names

The route is an attribute of its own: no other key has its name (`name_eq_route_iff`), so it is among
the attributes of a request (`routes_onStart`) and of an outcome (`routes_onEnd`) exactly where the
extractor is told one. An extractor and a holder name a span alike (`spanName_eq`), as long as the
holder was made for the request and holds no empty route, which no offer gives it
(`RouteHolder.MadeFor.offer`).
-/

namespace ServerTelemetry

open Text

/-! ## The attributes with the route's name -/

/-- Headers are recorded under names that begin otherwise. -/
theorem AttributeKey.name_eq_route_iff (key : AttributeKey) :
    key.name = "http.route".toList ↔ key = .route := by
  constructor
  · intro h
    cases key with
    | route => rfl
    | requestHeader name | responseHeader name =>
      have hprefix : "http.re".toList = "http.ro".toList := congrArg (·.take 7) h
      exact absurd hprefix (by decide)
    | _ => exact absurd h (by decide)
  · rintro rfl
    rfl

namespace Attribute

/-- The attributes with the name of the route. -/
def routes (attributes : List Attribute) : List Attribute :=
  attributes.filter fun a => a.key.name = "http.route".toList

theorem routes_append (a b : List Attribute) : routes (a ++ b) = routes a ++ routes b :=
  List.filter_append ..

theorem routes_eq_nil {key : AttributeKey} (hkey : key ≠ .route) {attributes : List Attribute}
    (h : ∀ a ∈ attributes, a.key = key) : routes attributes = [] := by
  refine List.filter_eq_nil_iff.2 fun a ha => ?_
  rw [decide_eq_true_eq, AttributeKey.name_eq_route_iff, h a ha]
  exact hkey

theorem key_of_mem_text? {key : AttributeKey} {value : Option Text} {a : Attribute}
    (h : a ∈ text? key value) : a.key = key := by
  cases value with
  | none => cases h
  | some value => rw [List.mem_singleton.1 h]

theorem key_of_mem_number? {key : AttributeKey} {value : Option Nat} {a : Attribute}
    (h : a ∈ number? key value) : a.key = key := by
  cases value with
  | none => cases h
  | some value => rw [List.mem_singleton.1 h]

theorem key_of_mem_texts {key : AttributeKey} {values : List Text} {a : Attribute}
    (h : a ∈ texts key values) : a.key = key := by
  unfold texts at h
  split at h
  · cases h
  · rw [List.mem_singleton.1 h]

theorem routes_text? {key : AttributeKey} (hkey : key ≠ .route) (value : Option Text) :
    routes (text? key value) = [] :=
  routes_eq_nil hkey fun _ => key_of_mem_text?

theorem routes_filled {key : AttributeKey} (hkey : key ≠ .route) (value : Text) :
    routes (filled key value) = [] :=
  routes_text? hkey _

theorem routes_number? {key : AttributeKey} (hkey : key ≠ .route) (value : Option Nat) :
    routes (number? key value) = [] :=
  routes_eq_nil hkey fun _ => key_of_mem_number?

theorem routes_headers {key : Text → AttributeKey} (hkey : ∀ name, key name ≠ .route)
    (names : List Text) (values : Text → List Text) :
    routes (names.flatMap fun name => texts (key name) (values name)) = [] := by
  induction names with
  | nil => rfl
  | cons name names ih =>
    rw [List.flatMap_cons, routes_append, ih, List.append_nil]
    exact routes_eq_nil (hkey name) fun _ => key_of_mem_texts

theorem routes_route (value : Option Text) : routes (text? .route value) = text? .route value :=
  List.filter_eq_self.2 fun a ha => by
    rw [decide_eq_true_eq, AttributeKey.name_eq_route_iff, key_of_mem_text? ha]

end Attribute

namespace Extractor

open Attribute

theorem routes_methodAttributes (e : Extractor) (r : RequestFacts) :
    routes (e.methodAttributes r) = [] := by
  unfold methodAttributes
  split <;> rfl

/-- The route is an attribute of a request if it is known already, and once. -/
theorem routes_onStart (e : Extractor) (r : RequestFacts) :
    routes (e.onStart r) = text? .route (r.route.bind nonEmpty?) := by
  have hheaders : routes (e.requestHeaders.flatMap fun name =>
      texts (.requestHeader name) (r.header name)) = [] :=
    routes_headers (fun _ => AttributeKey.noConfusion) _ _
  simp (disch := decide) only [onStart, routes_append, routes_methodAttributes, routes_filled,
    routes_text?, routes_number?, routes_route, hheaders, List.nil_append, List.append_nil]

/-- The route is an attribute of an outcome if it is known by then, and once. -/
theorem routes_onEnd (e : Extractor) (response : Option ResponseFacts) (error route : Option Text) :
    routes (e.onEnd response error route) = text? .route (route.bind nonEmpty?) := by
  have hheaders : routes (response.toList.flatMap fun response => e.responseHeaders.flatMap
      fun name => texts (.responseHeader name) (response.header name)) = [] := by
    cases response with
    | none => rfl
    | some response =>
      rw [Option.toList_some, List.flatMap_cons, List.flatMap_nil, List.append_nil]
      exact routes_headers (fun _ => AttributeKey.noConfusion) _ _
  simp (disch := decide) only [onEnd, routes_append, routes_text?, routes_number?, routes_route,
    hheaders, List.nil_append]

end Extractor

/-! ## Holders of a request's route -/

namespace RouteHolder

/-- A route is held after an offer if one was held before it or the offer changed the route. -/
theorem offer_route_isSome (h : RouteHolder) (source : RouteSource) (route : Text) :
    (h.offer source route).1.route.isSome = (h.route.isSome || (h.offer source route).2) := by
  rcases h.offer_cases source route with he | ⟨-, -, he⟩
  · rw [he, Bool.or_false]
  · rw [he, Bool.or_true]
    rfl

/-- The holder shows this method and holds no empty route. -/
structure MadeFor (h : RouteHolder) (method : Text) : Prop where
  method : h.method = some method
  route : ∀ r, h.route = some r → r ≠ []

namespace MadeFor

theorem new (method : Text) : (RouteHolder.new method).MadeFor method :=
  ⟨rfl, fun r hr => by cases hr⟩

/-- No offer changes the method, and none makes the route empty. -/
theorem offer {h : RouteHolder} {method : Text} (hm : h.MadeFor method) (source : RouteSource)
    (route : Text) : (h.offer source route).1.MadeFor method := by
  rcases h.offer_cases source route with he | ⟨hne, -, he⟩
  · rw [he]
    exact hm
  · rw [he]
    refine ⟨hm.method, fun r hr => ?_⟩
    obtain rfl := Option.some.inj hr
    exact hne

theorem nonEmpty?_route {h : RouteHolder} {method : Text} (hm : h.MadeFor method) :
    h.route.bind nonEmpty? = h.route := by
  cases hr : h.route with
  | none => rfl
  | some r => exact nonEmpty?_eq_some_iff.2 ⟨rfl, hm.route r hr⟩

/-- **A holder and an extractor name a span alike**: the method as the extractor shows it, with the
route if one is held. -/
theorem spanName_eq {h : RouteHolder} {e : Extractor} {r : RequestFacts}
    (hm : h.MadeFor (e.spanMethod r)) :
    h.spanName = e.spanName r h.route ∧
      h.spanName = e.spanMethod r ++ h.route.elim [] (' ' :: ·) := by
  rw [RouteHolder.spanName, Extractor.spanName, hm.nonEmpty?_route, hm.method]
  cases h.route with
  | none => exact ⟨rfl, (List.append_nil _).symm⟩
  | some route => exact ⟨rfl, rfl⟩

end MadeFor

end RouteHolder

end ServerTelemetry
