import Mathlib.Data.List.MinMax
import ServerTelemetry.Route.Book

/-!
# Which route is held in the end

The route behind a handle is said by the offers alone that were made through the handles with the
same original (`route_resolution`): the stage of highest priority among them decides, by its first
route or, if it may improve its own, by the earliest of its longest routes (`bestOf`). A holder
keeps just that (`bestOf_concat`), as one more offer comes; a book keeps it for every original at
once (`Tracks`).
-/

namespace ServerTelemetry

/-! ## The best of some offers -/

/-- A route with the stage that offers it. -/
abbrev RouteOffer := RouteSource × Text

namespace RouteOffer

/-- The stage of highest priority that made one of these offers. -/
def top? (offers : List RouteOffer) : Option RouteSource :=
  (offers.map Prod.fst).argmax RouteSource.priority

/-- The routes that a stage offered, in order. -/
def routesOf (source : RouteSource) (offers : List RouteOffer) : List Text :=
  (offers.filter fun offer => offer.1 = source).map Prod.snd

/-- The route of a stage that counts: the router's and a handler's first one, and of the two other
stages the longest, the earliest if there are several. -/
def pick? : RouteSource → List Text → Option Text
  | .router, routes | .handler, routes => routes.head?
  | .middleware, routes | .nestedHandler, routes => routes.argmax Text.utf8Length

/-- The offer that counts. -/
def bestOf (offers : List RouteOffer) : Option RouteOffer :=
  (top? offers).bind fun source => (pick? source (routesOf source offers)).map (source, ·)

theorem priority_injective {s t : RouteSource} (h : s.priority = t.priority) : s = t := by
  cases s <;> cases t <;> first | rfl | cases h

theorem top?_eq_none {offers : List RouteOffer} (h : top? offers = none) : offers = [] := by
  rw [top?, List.argmax_eq_none] at h
  exact List.map_eq_nil_iff.1 h

theorem top?_concat (offers : List RouteOffer) (s : RouteSource) (route : Text) :
    top? (offers ++ [(s, route)]) =
      match top? offers with
      | none => some s
      | some t => if t.priority < s.priority then some s else some t := by
  rw [top?, List.map_append, List.map_cons, List.map_nil, List.argmax_concat, ← top?]
  cases top? offers <;> rfl

/-- The stage of highest priority is one of them, and none of them has a higher one. -/
theorem top?_eq_some_iff {offers : List RouteOffer} {s : RouteSource} :
    top? offers = some s ↔
      (∃ offer ∈ offers, offer.1 = s) ∧ ∀ offer ∈ offers, offer.1.priority ≤ s.priority := by
  constructor
  · intro h
    refine ⟨List.mem_map.1 (List.argmax_mem h), fun offer hoffer => ?_⟩
    exact List.le_of_mem_argmax (List.mem_map_of_mem hoffer) h
  · rintro ⟨⟨offer, hoffer, rfl⟩, hle⟩
    cases ht : top? offers with
    | none =>
      rw [top?_eq_none ht] at hoffer
      cases hoffer
    | some t =>
      have hge : offer.1.priority ≤ t.priority :=
        List.le_of_mem_argmax (List.mem_map_of_mem hoffer) ht
      obtain ⟨other, hother, rfl⟩ := List.mem_map.1 (List.argmax_mem ht)
      rw [priority_injective (Nat.le_antisymm (hle other hother) hge)]

theorem routesOf_nil (s : RouteSource) : routesOf s [] = [] := rfl

theorem routesOf_append (s : RouteSource) (a b : List RouteOffer) :
    routesOf s (a ++ b) = routesOf s a ++ routesOf s b := by
  simp only [routesOf, List.filter_append, List.map_append]

theorem routesOf_self (s : RouteSource) (route : Text) : routesOf s [(s, route)] = [route] := by
  simp only [routesOf, decide_true, List.filter_cons_of_pos, List.filter_nil, List.map_cons,
    List.map_nil]

theorem routesOf_of_ne {s t : RouteSource} (h : t ≠ s) (route : Text) (offers : List RouteOffer) :
    routesOf s ((t, route) :: offers) = routesOf s offers := by
  rw [routesOf, List.filter_cons_of_neg (by simpa using h), routesOf]

theorem routesOf_eq_nil {s : RouteSource} {offers : List RouteOffer}
    (h : ∀ offer ∈ offers, offer.1 ≠ s) : routesOf s offers = [] := by
  rw [routesOf, List.filter_eq_nil_iff.2 fun offer hoffer => by simpa using h offer hoffer]
  rfl

/-- One more route of a stage counts if it is the first one or an improvement. -/
theorem pick?_concat (s : RouteSource) (routes : List Text) (route : Text) :
    pick? s (routes ++ [route]) =
      match pick? s routes with
      | none => some route
      | some held =>
        if s.mayImprove && Text.utf8Length held < Text.utf8Length route then some route
        else some held := by
  have hfirst : ∀ routes : List Text, (routes ++ [route]).head? =
      match routes.head? with
      | none => some route
      | some held => some held := by
    intro routes
    cases routes <;> rfl
  cases s with
  | router | handler =>
    rw [pick?, pick?, hfirst]
    rfl
  | middleware | nestedHandler =>
    rw [pick?, pick?, List.argmax_concat]
    cases routes.argmax Text.utf8Length with
    | none => rfl
    | some held => simp only [RouteSource.mayImprove, Bool.true_and, decide_eq_true_eq]

theorem pick?_isSome {s : RouteSource} {routes : List Text} (h : routes ≠ []) :
    ∃ route, pick? s routes = some route := by
  rw [← List.dropLast_append_getLast h, pick?_concat]
  cases pick? s routes.dropLast with
  | none => exact ⟨_, rfl⟩
  | some held =>
    simp only
    split <;> exact ⟨_, rfl⟩

theorem bestOf_nil : bestOf [] = none := rfl

/-- The offer that counts is one of the stage of highest priority. -/
theorem bestOf_of_top? {offers : List RouteOffer} {s : RouteSource} (h : top? offers = some s) :
    ∃ route, pick? s (routesOf s offers) = some route ∧ bestOf offers = some (s, route) := by
  obtain ⟨⟨⟨source, route⟩, hmem, hs⟩, -⟩ := top?_eq_some_iff.1 h
  obtain rfl : source = s := hs
  have hne : routesOf source offers ≠ [] := by
    intro hnil
    have hroute : route ∈ routesOf source offers :=
      List.mem_map.2 ⟨(source, route), List.mem_filter.2 ⟨hmem, decide_eq_true rfl⟩, rfl⟩
    rw [hnil] at hroute
    cases hroute
  obtain ⟨picked, hpicked⟩ := pick?_isSome (s := source) hne
  refine ⟨picked, hpicked, ?_⟩
  rw [bestOf, h, Option.bind_some, hpicked, Option.map_some]

/-- **A holder keeps the offer that counts** when one more offer comes. -/
theorem bestOf_concat {h : RouteHolder} {offers : List RouteOffer} (hbest : h.best = bestOf offers)
    (s : RouteSource) (route : Text) :
    bestOf (offers ++ [(s, route)]) =
      if h.replaces s route then some (s, route) else bestOf offers := by
  cases ht : top? offers with
  | none =>
    obtain rfl := top?_eq_none ht
    rw [RouteHolder.replaces, hbest, bestOf_nil]
    cases s <;> rfl
  | some t =>
    obtain ⟨held, hheld, ho⟩ := bestOf_of_top? ht
    obtain ⟨-, hle⟩ := top?_eq_some_iff.1 ht
    rw [RouteHolder.replaces, hbest, ho]
    rcases Nat.lt_trichotomy t.priority s.priority with hlt | heq | hgt
    · -- The stage is above all that made an offer before it.
      have hnone : routesOf s offers = [] := by
        refine routesOf_eq_nil fun offer hoffer he => ?_
        have := hle offer hoffer
        rw [he] at this
        omega
      rw [bestOf, top?_concat, ht]
      simp only [hlt, ↓reduceIte, Option.bind_some, decide_true, Bool.true_or]
      rw [routesOf_append, hnone, routesOf_self, pick?_concat]
      cases s <;> rfl
    · -- The stage is the one whose route is held.
      obtain rfl := priority_injective heq
      rw [bestOf, top?_concat, ht]
      simp only [Nat.lt_irrefl, ↓reduceIte, Option.bind_some, decide_false, Bool.false_or, BEq.rfl,
        Bool.true_and]
      rw [routesOf_append, routesOf_self, pick?_concat, hheld]
      simp only
      split <;> rfl
    · -- The stage is below the one whose route is held.
      have hlt : ¬ t.priority < s.priority := Nat.not_lt.2 (Nat.le_of_lt hgt)
      have hne : s ≠ t := by
        rintro rfl
        exact Nat.lt_irrefl _ hgt
      rw [bestOf, top?_concat, ht]
      simp only [hlt, ↓reduceIte, Option.bind_some, decide_false,
        beq_eq_false_iff_ne.2 (Nat.ne_of_lt hgt), Bool.false_and, Bool.or_self, Bool.false_eq_true]
      rw [routesOf_append, routesOf_of_ne hne, routesOf_nil, List.append_nil, hheld,
        Option.map_some]

/-- An offer of a stage with a lower priority than another one does not count, wherever it is. -/
theorem bestOf_of_lower {earlier later : List RouteOffer} {better : RouteOffer} {s : RouteSource}
    (hmem : better ∈ earlier ++ later) (hlt : s.priority < better.1.priority) (route : Text) :
    bestOf (earlier ++ (s, route) :: later) = bestOf (earlier ++ later) := by
  cases ht : top? (earlier ++ later) with
  | none =>
    rw [top?_eq_none ht] at hmem
    cases hmem
  | some t =>
    obtain ⟨⟨top, htop, htt⟩, hle⟩ := top?_eq_some_iff.1 ht
    have hst : s.priority < t.priority := Nat.lt_of_lt_of_le hlt (hle better hmem)
    have hs : top? (earlier ++ (s, route) :: later) = some t := by
      refine top?_eq_some_iff.2 ⟨⟨top, ?_, htt⟩, fun offer hoffer => ?_⟩
      · rcases List.mem_append.1 htop with hold | hnew
        · exact List.mem_append_left _ hold
        · exact List.mem_append_right _ (List.mem_cons_of_mem _ hnew)
      · rcases List.mem_append.1 hoffer with hold | hnew
        · exact hle offer (List.mem_append_left _ hold)
        · rcases List.mem_cons.1 hnew with rfl | hnew
          · exact Nat.le_of_lt hst
          · exact hle offer (List.mem_append_right _ hnew)
    have hne : s ≠ t := by
      rintro rfl
      exact Nat.lt_irrefl _ hst
    rw [bestOf, bestOf, hs, ht, Option.bind_some, Option.bind_some, routesOf_append,
      routesOf_of_ne hne, ← routesOf_append]

end RouteOffer

/-! ## Handles and their originals -/

namespace RouteOp

/-- The originals of all handles after an operation, given those before it. A clone has the original
of the handle it is a clone of; any other handle is its own. -/
def originals (before : List Nat) : RouteOp → List Nat
  | .new _ | .blank => before ++ [before.length]
  | .clone handle => before ++ before[handle]?.toList
  | .offer _ _ _ => before

/-- What an operation offers through the handles with an original, given the originals of all
handles. Empty routes are no offers. -/
def offerTo? (before : List Nat) (original : Nat) : RouteOp → Option RouteOffer
  | .offer handle source route =>
    if before[handle]? = some original then (route.bind Text.nonEmpty?).map (source, ·) else none
  | _ => none

end RouteOp

namespace RouteBook

open RouteOffer

/-- The originals of the handles of a program. -/
def originals (program : List RouteOp) : List Nat :=
  program.foldl RouteOp.originals []

/-- What a program offers through the handles with an original, in order, if these are the originals
of the handles there are already. -/
def offersFrom (before : List Nat) (original : Nat) : List RouteOp → List RouteOffer
  | [] => []
  | op :: program =>
    (op.offerTo? before original).toList ++ offersFrom (op.originals before) original program

/-- What a program offers through the handles with an original, in order. -/
def offersTo (original : Nat) (program : List RouteOp) : List RouteOffer :=
  offersFrom [] original program

theorem run_concat (program : List RouteOp) (op : RouteOp) :
    run (program ++ [op]) = (run program).step op :=
  List.foldl_append

theorem originals_append (a b : List RouteOp) :
    originals (a ++ b) = b.foldl RouteOp.originals (originals a) :=
  List.foldl_append

theorem originals_concat (program : List RouteOp) (op : RouteOp) :
    originals (program ++ [op]) = op.originals (originals program) :=
  List.foldl_append

theorem offersFrom_append (before : List Nat) (original : Nat) (a b : List RouteOp) :
    offersFrom before original (a ++ b) =
      offersFrom before original a ++ offersFrom (a.foldl RouteOp.originals before) original b := by
  induction a generalizing before with
  | nil => rfl
  | cons op a ih =>
    simp only [List.cons_append, offersFrom, ih, List.append_assoc, List.foldl_cons]

theorem offersTo_append (original : Nat) (a b : List RouteOp) :
    offersTo original (a ++ b) = offersTo original a ++ offersFrom (originals a) original b :=
  offersFrom_append [] original a b

theorem offersTo_concat (original : Nat) (program : List RouteOp) (op : RouteOp) :
    offersTo original (program ++ [op]) =
      offersTo original program ++ (op.offerTo? (originals program) original).toList := by
  rw [offersTo_append]
  simp only [offersFrom, List.append_nil]

/-! ## The invariant -/

/-- How a book stands after a program: handles share a holder if they have the same original, and
the holder keeps the offer that counts of all that were made to them. -/
structure Tracks (program : List RouteOp) (place : Nat → Nat) : Prop where
  handles : (run program).handles = (originals program).map place
  original_lt : ∀ o ∈ originals program, o < (originals program).length
  apart : ∀ o ∈ originals program, ∀ o' ∈ originals program, place o = place o' → o = o'
  unheard : ∀ o, o ∉ originals program → offersTo o program = []
  best : ∀ o ∈ originals program, ∃ holder, (run program).holders[place o]? = some holder ∧
    holder.best = bestOf (offersTo o program)

namespace Tracks

variable {program : List RouteOp} {place : Nat → Nat}

theorem handle (h : Tracks program place) (i : Nat) :
    (run program).handles[i]? = (originals program)[i]?.map place := by
  rw [h.handles, List.getElem?_map]

theorem place_lt (h : Tracks program place) {o : Nat} (ho : o ∈ originals program) :
    place o < (run program).holders.length := by
  obtain ⟨holder, hholder, -⟩ := h.best o ho
  exact (List.getElem?_eq_some_iff.1 hholder).1

/-- A new handle is its own original, and its holder is a new one. -/
theorem add (h : Tracks program place) {op : RouteOp} {holder : RouteHolder}
    (horiginals : ∀ before, op.originals before = before ++ [before.length])
    (hoffer : ∀ before o, op.offerTo? before o = none)
    (hstep : ∀ b : RouteBook, b.step op = b.add holder) (hblank : holder.best = none) :
    ∃ place, Tracks (program ++ [op]) place := by
  let n := (originals program).length
  let next := (run program).holders.length
  have hne : ∀ o ∈ originals program, o ≠ n := fun o ho => Nat.ne_of_lt (h.original_lt o ho)
  have hnew : n ∉ originals program := fun hn => hne n hn rfl
  have hold : originals (program ++ [op]) = originals program ++ [n] := by
    rw [originals_concat, horiginals]
  have hbook : run (program ++ [op]) = (run program).add holder := by
    rw [run_concat, hstep]
  have hoffers : ∀ o, offersTo o (program ++ [op]) = offersTo o program := by
    intro o
    rw [offersTo_concat, hoffer, Option.toList_none, List.append_nil]
  refine ⟨fun o => if o = n then next else place o, ?_, ?_, ?_, ?_, ?_⟩
  · rw [hold, hbook, List.map_append, List.map_cons, List.map_nil, if_pos rfl, RouteBook.add,
      h.handles]
    refine congrArg (· ++ [next]) (List.map_congr_left fun o ho => ?_)
    exact (if_neg (hne o ho)).symm
  · intro o ho
    rw [hold] at ho ⊢
    rw [List.length_append]
    rcases List.mem_append.1 ho with ho | ho
    · exact Nat.lt_add_right _ (h.original_lt o ho)
    · rw [List.mem_singleton.1 ho]
      exact Nat.lt_succ_self n
  · have hplace : ∀ o ∈ originals program, place o ≠ next :=
      fun o ho => Nat.ne_of_lt (h.place_lt ho)
    intro o ho o' ho' he
    rw [hold] at ho ho'
    rcases List.mem_append.1 ho with ho | ho <;> rcases List.mem_append.1 ho' with ho' | ho'
    · rw [if_neg (hne o ho), if_neg (hne o' ho')] at he
      exact h.apart o ho o' ho' he
    · rw [if_neg (hne o ho), if_pos (List.mem_singleton.1 ho')] at he
      exact absurd he (hplace o ho)
    · rw [if_pos (List.mem_singleton.1 ho), if_neg (hne o' ho')] at he
      exact absurd he.symm (hplace o' ho')
    · rw [List.mem_singleton.1 ho, List.mem_singleton.1 ho']
  · intro o ho
    rw [hold] at ho
    rw [hoffers]
    exact h.unheard o fun hmem => ho (List.mem_append_left _ hmem)
  · intro o ho
    rw [hold] at ho
    rw [hbook, hoffers]
    rcases List.mem_append.1 ho with ho | ho
    · obtain ⟨held, hheld, hbest⟩ := h.best o ho
      refine ⟨held, ?_, hbest⟩
      rw [if_neg (hne o ho), RouteBook.add, List.getElem?_append_left (h.place_lt ho), hheld]
    · obtain rfl := List.mem_singleton.1 ho
      refine ⟨holder, ?_, ?_⟩
      · rw [if_pos rfl]
        exact List.getElem?_concat_length
      · rw [hblank, h.unheard n hnew, bestOf_nil]

/-- A clone has the original of the handle it is a clone of, and its holder. -/
theorem clone (h : Tracks program place) (handle : Nat) :
    Tracks (program ++ [.clone handle]) place := by
  have hold : originals (program ++ [.clone handle]) =
      originals program ++ (originals program)[handle]?.toList := originals_concat ..
  have hmem : ∀ o, o ∈ originals (program ++ [.clone handle]) ↔ o ∈ originals program := by
    intro o
    rw [hold, List.mem_append, or_iff_left_of_imp]
    intro ho
    exact List.mem_of_getElem? (Option.mem_toList.1 ho)
  have hoffers : ∀ o, offersTo o (program ++ [.clone handle]) = offersTo o program := by
    intro o
    rw [offersTo_concat]
    exact List.append_nil _
  have hholders : (run (program ++ [.clone handle])).holders = (run program).holders := by
    rw [run_concat, step, RouteBook.clone]
    split <;> rfl
  refine ⟨?_, ?_, ?_, ?_, ?_⟩
  · rw [run_concat, hold, step, RouteBook.clone, h.handle, List.map_append, ← h.handles]
    cases (originals program)[handle]? with
    | none => exact (List.append_nil _).symm
    | some o => rfl
  · intro o ho
    rw [hold, List.length_append]
    exact Nat.lt_add_right _ (h.original_lt o ((hmem o).1 ho))
  · intro o ho o' ho' he
    exact h.apart o ((hmem o).1 ho) o' ((hmem o').1 ho') he
  · intro o ho
    rw [hoffers]
    exact h.unheard o fun hin => ho ((hmem o).2 hin)
  · intro o ho
    rw [hholders, hoffers]
    exact h.best o ((hmem o).1 ho)

/-- An offer counts for the handles with the same original. -/
theorem offer (h : Tracks program place) (handle : Nat) (source : RouteSource)
    (route : Option Text) : Tracks (program ++ [.offer handle source route]) place := by
  have hold : originals (program ++ [.offer handle source route]) = originals program :=
    originals_concat ..
  have hhandles : (run (program ++ [.offer handle source route])).handles =
      (run program).handles := by
    rw [run_concat, step, offerWith]
    split
    · rfl
    · split <;> rfl
  refine ⟨?_, ?_, ?_, ?_, ?_⟩
  · rw [hold, hhandles, h.handles]
  · rw [hold]
    exact h.original_lt
  · rw [hold]
    exact h.apart
  · intro o ho
    rw [hold] at ho
    have hother : (originals program)[handle]? ≠ some o := fun he => ho (List.mem_of_getElem? he)
    rw [offersTo_concat, h.unheard o ho, RouteOp.offerTo?, if_neg hother]
    rfl
  · intro o ho
    rw [hold] at ho
    obtain ⟨holder, hholder, hbest⟩ := h.best o ho
    rw [run_concat, offersTo_concat, step, offerWith, h.handle, RouteOp.offerTo?]
    cases hh : (originals program)[handle]? with
    | none =>
      refine ⟨holder, hholder, ?_⟩
      rw [if_neg (by simp)]
      simpa using hbest
    | some o' =>
      have ho' := List.mem_of_getElem? hh
      obtain ⟨holder', hholder', -⟩ := h.best o' ho'
      by_cases he : o' = o
      · subst he
        obtain rfl := Option.some.inj (hholder.symm.trans hholder')
        refine ⟨(holder.offerWith source route).1, ?_, ?_⟩
        · simp only [Option.map_some, hholder]
          rw [List.getElem?_set_self (h.place_lt ho)]
        · rw [if_pos rfl, RouteHolder.offerWith]
          cases route.bind Text.nonEmpty? with
          | none => simpa using hbest
          | some route =>
            rw [Option.map_some, Option.toList_some, bestOf_concat hbest]
            simp only
            split
            · rfl
            · exact hbest
      · have hplace : place o' ≠ place o := fun hp => he (h.apart o' ho' o ho hp)
        refine ⟨holder, ?_, ?_⟩
        · simp only [Option.map_some, hholder']
          rw [List.getElem?_set_ne hplace, hholder]
        · rw [if_neg (fun hs => he (Option.some.inj hs))]
          simpa using hbest

end Tracks

/-- Every program keeps for every original the offer that counts. -/
theorem exists_tracks (program : List RouteOp) : ∃ place, Tracks program place := by
  induction program using List.reverseRecOn with
  | nil =>
    refine ⟨id, rfl, ?_, ?_, fun o _ => rfl, ?_⟩ <;> intro o ho <;> cases ho
  | append_singleton program op ih =>
    obtain ⟨place, h⟩ := ih
    cases op with
    | new method => exact h.add (fun _ => rfl) (fun _ _ => rfl) (fun _ => rfl) rfl
    | blank => exact h.add (fun _ => rfl) (fun _ _ => rfl) (fun _ => rfl) rfl
    | clone handle => exact ⟨place, h.clone handle⟩
    | offer handle source route => exact ⟨place, h.offer handle source route⟩

/-- The route behind a handle is the one that counts of those offered to its original. -/
theorem holder?_run_route (program : List RouteOp) (handle : Nat) :
    ((run program).holder? handle).map (·.route) =
      (originals program)[handle]?.map fun o => (bestOf (offersTo o program)).map Prod.snd := by
  obtain ⟨place, h⟩ := exists_tracks program
  rw [holder?, h.handle]
  cases hh : (originals program)[handle]? with
  | none => rfl
  | some o =>
    obtain ⟨holder, hholder, hbest⟩ := h.best o (List.mem_of_getElem? hh)
    rw [Option.map_some, Option.bind_some, hholder, Option.map_some, RouteHolder.route, hbest,
      Option.map_some]

/-- **The route behind a handle is the one that counts** of the routes, other than empty ones, that
were offered through the handles with the same original; there is a holder behind every handle. An
offer changes nothing, wherever it stands in a program, if it has no route to offer, if it is made
through a handle with another original, or if a stage of higher priority makes an offer as well,
earlier or later. -/
theorem route_resolution (program : List RouteOp) (handle : Nat) :
    ((run program).holder? handle).map (·.route) =
      (originals program)[handle]?.map (fun o => (bestOf (offersTo o program)).map Prod.snd) ∧
    ∀ (earlier later : List RouteOp) (other : Nat) (source : RouteSource) (route : Option Text),
      program = earlier ++ later →
      route.bind Text.nonEmpty? = none ∨
        (originals earlier)[other]? ≠ (originals program)[handle]? ∨
        (∃ o, (originals program)[handle]? = some o ∧
          ∃ better ∈ offersTo o program, source.priority < better.1.priority) →
      ((run (earlier ++ .offer other source route :: later)).holder? handle).map (·.route) =
        ((run program).holder? handle).map (·.route) := by
  refine ⟨holder?_run_route program handle, ?_⟩
  rintro earlier later other source route rfl hor
  have hold : originals (earlier ++ .offer other source route :: later) =
      originals (earlier ++ later) := by
    rw [originals_append, originals_append]
    rfl
  rw [holder?_run_route, holder?_run_route, hold]
  cases ho : (originals (earlier ++ later))[handle]? with
  | none => rfl
  | some o =>
    have hoffers : offersTo o (earlier ++ .offer other source route :: later) =
        offersTo o earlier ++ ((RouteOp.offer other source route).offerTo? (originals earlier)
          o).toList ++ offersFrom (originals earlier) o later := by
      rw [offersTo_append, List.append_assoc]
      rfl
    rw [ho] at hor
    rw [Option.map_some, Option.map_some, hoffers, offersTo_append, RouteOp.offerTo?]
    rcases hor with hnone | hother | ⟨o', ho', better, hmem, hlt⟩
    · simp only [hnone, Option.map_none, ite_self, Option.toList_none, List.append_nil]
    · rw [if_neg hother, Option.toList_none, List.append_nil]
    · obtain rfl := Option.some.inj ho'
      rw [offersTo_append] at hmem
      split
      · cases route.bind Text.nonEmpty? with
        | none => rw [Option.map_none, Option.toList_none, List.append_nil]
        | some route =>
          rw [Option.map_some, Option.toList_some, List.append_assoc, List.singleton_append,
            bestOf_of_lower hmem hlt]
      · rw [Option.toList_none, List.append_nil]

/-- The router's route is kept, though the middleware offers a longer one through a clone. -/
theorem route_resolution_router :
    let earlier : List RouteOp := [.new "GET".toList, .clone 0]
    let later : List RouteOp := [.offer 0 .router (some "/a".toList)]
    let longer : RouteOp := .offer 1 .middleware (some "/a/b".toList)
    ((run (earlier ++ longer :: later)).holder? 0).map (·.route) = some (some "/a".toList) := by
  intro earlier later longer
  have hresolved := route_resolution (earlier ++ later) 0
  have hrouter : (.router, "/a".toList) ∈ offersTo 0 (earlier ++ later) := by decide
  rw [hresolved.2 earlier later 1 .middleware _ rfl
    (Or.inr (Or.inr ⟨0, rfl, _, hrouter, by decide⟩)), hresolved.1]
  decide

end RouteBook

end ServerTelemetry
