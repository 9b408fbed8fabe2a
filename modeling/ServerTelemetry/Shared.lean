import ServerTelemetry.Route.Basic
import ServerTelemetry.Span.Basic

/-!
# What requests share

All requests of a process attach their contexts to one stack, whose innermost context is the current
one, and keep their route holders in one store, where a holder is known by its place. Neither tells
the requests apart: a context that stays attached would be the parent of whatever comes next, and an
offer goes to whichever holder is at its place.
-/

namespace ServerTelemetry

/-- What all requests of a process share. -/
structure Shared where
  /-- The contexts that are attached, the innermost first. -/
  attached : List Parent := []
  /-- The route holders, in order of creation. -/
  holders : List RouteHolder := []
  deriving DecidableEq, Repr

namespace Shared

/-- The current context. -/
def current (w : Shared) : Parent :=
  w.attached.headD .root

/-- How many contexts are attached. -/
def depth (w : Shared) : Nat :=
  w.attached.length

/-- Makes a context the current one. -/
def attach (w : Shared) (context : Parent) : Shared :=
  { w with attached := context :: w.attached }

/-- Gives the context before it its place back. -/
def detach (w : Shared) : Shared :=
  { w with attached := w.attached.tail }

/-- The place of the next holder. -/
def next (w : Shared) : Nat :=
  w.holders.length

/-- Keeps a new holder. -/
def keep (w : Shared) (holder : RouteHolder) : Shared :=
  { w with holders := w.holders ++ [holder] }

/-- The holder at a place. -/
def holder? (w : Shared) (place : Nat) : Option RouteHolder :=
  w.holders[place]?

/-- The holder at a place, a blank one where there is none. -/
def holderAt (w : Shared) (place : Nat) : RouteHolder :=
  (w.holder? place).getD .empty

/-- Offers a route to the holder at a place. Answers whether its route changed. -/
def offer (w : Shared) (place : Nat) (source : RouteSource) (route : Text) : Shared × Bool :=
  match w.holder? place with
  | some holder =>
    let (holder, changed) := holder.offer source route
    ({ w with holders := w.holders.set place holder }, changed)
  | none => (w, false)

@[simp] theorem current_attach (w : Shared) (context : Parent) :
    (w.attach context).current = context := rfl

@[simp] theorem detach_attach (w : Shared) (context : Parent) :
    (w.attach context).detach = w := rfl

@[simp] theorem holderAt_attach (w : Shared) (context : Parent) :
    (w.attach context).holderAt = w.holderAt := rfl

@[simp] theorem offer_attached (w : Shared) (place : Nat) (source : RouteSource) (route : Text) :
    (w.offer place source route).1.attached = w.attached := by
  unfold offer
  split <;> rfl

@[simp] theorem offer_length (w : Shared) (place : Nat) (source : RouteSource) (route : Text) :
    (w.offer place source route).1.holders.length = w.holders.length := by
  unfold offer
  split
  · exact List.length_set
  · rfl

/-- An offer reaches the holder at its place and no other. -/
theorem holder?_offer (w : Shared) (place : Nat) (source : RouteSource) (route : Text) (i : Nat) :
    (w.offer place source route).1.holder? i =
      if i = place then (w.holder? i).map fun h => (h.offer source route).1 else w.holder? i := by
  unfold offer
  cases h : w.holder? place with
  | none =>
    simp only
    split
    · next hi => subst hi; rw [h]; rfl
    · rfl
  | some holder =>
    simp only [holder?] at h ⊢
    rw [List.getElem?_set]
    split
    · next hi =>
      subst hi
      rw [if_pos rfl, if_pos (List.getElem?_eq_some_iff.1 h).1, h]
      rfl
    · next hi => rw [if_neg fun he => hi he.symm]

/-- Whether an offer changes a route depends on the holder at its place. -/
theorem offer_changed (w : Shared) (place : Nat) (source : RouteSource) (route : Text) :
    (w.offer place source route).2 =
      ((w.holder? place).map fun h => (h.offer source route).2).getD false := by
  unfold offer
  cases w.holder? place <;> rfl

end Shared

end ServerTelemetry
