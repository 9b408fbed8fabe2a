import Mathlib.Data.Prod.Lex
import ServerTelemetry.Route.Book

/-!
# What one offer does

A holder decides twice about an offer: whether a route of the stage is worth computing (`considers`),
and whether the one computed is better than the one held (`replaces`). It considers a stage exactly if
some route of it would be accepted (`considers_iff`), so nothing is lost by computing routes on demand
(`offerLazily_of_considers`). A better route raises the holder's `rank` (`rank_lt_of_better`), and an
offer that is declined changes nothing. So along a program the priority of the route held never falls
(`exists_holder?_foldl`), and a route is never lost, as no priority is zero but that of no route.
-/

namespace ServerTelemetry

open Text

namespace RouteHolder

variable {h : RouteHolder} {source : RouteSource} {route : Option Text}

/-! ## Which offers are accepted -/

theorem priority_pos (source : RouteSource) : 0 < source.priority := by
  cases source <;> decide

theorem mayImprove_iff :
    source.mayImprove = true ↔ source = .middleware ∨ source = .nestedHandler := by
  cases source <;> decide

theorem priority_eq_zero_iff : h.priority = 0 ↔ h.route = none := by
  obtain ⟨method, best⟩ := h
  cases best with
  | none => exact iff_of_true rfl rfl
  | some b => exact iff_of_false (Nat.ne_of_gt (priority_pos b.1)) (by simp [RouteHolder.route])

/-- A route is better if its stage is a later one, or the same one that may improve and the route is
longer. -/
def Better (h : RouteHolder) (source : RouteSource) (route : Text) : Prop :=
  h.priority < source.priority ∨
    h.priority = source.priority ∧ (source = .middleware ∨ source = .nestedHandler) ∧
      h.heldLength < utf8Length route

theorem replaces_iff {route : Text} : h.replaces source route = true ↔ h.Better source route := by
  rw [Better, ← mayImprove_iff]
  obtain ⟨method, best⟩ := h
  cases best with
  | none => exact iff_of_true rfl (Or.inl (priority_pos source))
  | some b =>
    simp only [replaces, priority, heldLength, RouteHolder.route, Option.map_some,
      Option.getD_some, Bool.or_eq_true, Bool.and_eq_true, decide_eq_true_eq, beq_iff_eq,
      eq_comm (a := source.priority), and_assoc]

theorem considers_eq_true_iff :
    h.considers source = true ↔
      h.priority < source.priority ∨ h.priority = source.priority ∧ source.mayImprove = true := by
  simp only [considers, Bool.or_eq_true, Bool.and_eq_true, decide_eq_true_eq, beq_iff_eq,
    eq_comm (a := source.priority)]

/-- An offer is declined, or its route is better and held from then on. -/
theorem offerWith_cases (h : RouteHolder) (source : RouteSource) (route : Option Text) :
    h.offerWith source route = (h, false) ∨
      ∃ r, route = some r ∧ r ≠ [] ∧ h.Better source r ∧
        h.offerWith source route = ({ h with best := some (source, r) }, true) := by
  unfold offerWith
  cases hr : route.bind nonEmpty? with
  | none => exact Or.inl rfl
  | some r =>
    obtain ⟨r', rfl, hne⟩ := Option.bind_eq_some_iff.1 hr
    obtain ⟨rfl, hne⟩ := nonEmpty?_eq_some_iff.1 hne
    simp only
    split
    · next hreplaces => exact Or.inr ⟨r', rfl, hne, replaces_iff.1 hreplaces, rfl⟩
    · exact Or.inl rfl

theorem offer_cases (h : RouteHolder) (source : RouteSource) (route : Text) :
    h.offer source route = (h, false) ∨
      route ≠ [] ∧ h.Better source route ∧
        h.offer source route = ({ h with best := some (source, route) }, true) := by
  rcases h.offerWith_cases source (some route) with he | ⟨r, hr, hne, hbetter, he⟩
  · exact Or.inl he
  · obtain rfl := Option.some.inj hr
    exact Or.inr ⟨hne, hbetter, he⟩

theorem offer_accepted {r : Text} (hne : r ≠ []) (hbetter : h.Better source r) :
    h.offer source r = ({ h with best := some (source, r) }, true) := by
  rw [offer, offerWith, Option.bind_some, nonEmpty?_eq_some_iff.2 ⟨rfl, hne⟩]
  exact if_pos (replaces_iff.2 hbetter)

/-- There is a route longer than any given number of bytes. -/
theorem exists_longer (n : Nat) : ∃ route : Text, route ≠ [] ∧ n < utf8Length route := by
  have hlength : ∀ n, utf8Length (List.replicate n '/') = n := by
    intro n
    induction n with
    | zero => rfl
    | succ n ih => rw [List.replicate_succ, utf8Length, ih, Nat.add_comm]; rfl
  exact ⟨List.replicate (n + 1) '/', by simp, by rw [hlength]; exact Nat.lt_succ_self n⟩

/-- **A stage is considered exactly if some route of it would be accepted.** -/
theorem considers_iff : h.considers source = true ↔ ∃ r, (h.offer source r).2 = true := by
  constructor
  · intro hconsiders
    obtain ⟨r, hne, hlonger⟩ := exists_longer h.heldLength
    refine ⟨r, ?_⟩
    rw [offer_accepted hne]
    rcases considers_eq_true_iff.1 hconsiders with hlater | ⟨hsame, himprove⟩
    · exact Or.inl hlater
    · exact Or.inr ⟨hsame, mayImprove_iff.1 himprove, hlonger⟩
  · rintro ⟨r, hr⟩
    rcases h.offer_cases source r with he | ⟨-, hbetter, -⟩
    · rw [he] at hr
      cases hr
    · exact considers_of_replaces (replaces_iff.2 hbetter)

/-! ## Computing on demand -/

section Lazily

variable {m : Type → Type} [Monad m]

theorem offerLazily_of_not_considers (hnot : h.considers source = false)
    (compute : m (Option Text)) : h.offerLazily source compute = pure (h, false) := by
  simp [offerLazily, hnot]

/-- Where the stage is considered, the two tests that are left are those of an offer. -/
theorem offerLazily_of_considers [LawfulMonad m] (hconsiders : h.considers source = true)
    (compute : m (Option Text)) :
    h.offerLazily source compute = h.offerWith source <$> compute := by
  have htest : ∀ r : Text, h.replaces source r =
      ! (source.priority == h.priority && utf8Length r ≤ h.heldLength) := by
    intro r
    rw [Bool.eq_iff_iff, replaces_iff, Better, ← mayImprove_iff]
    simp only [Bool.not_eq_true', Bool.and_eq_false_iff, beq_eq_false_iff_ne,
      decide_eq_false_iff_not, Nat.not_le]
    rcases considers_eq_true_iff.1 hconsiders with hlater | ⟨hsame, himprove⟩
    · omega
    · simp [hsame, himprove]
  rw [offerLazily, map_eq_pure_bind]
  simp only [hconsiders, ↓reduceIte]
  refine bind_congr fun answer => ?_
  rw [offerWith]
  cases answer.bind nonEmpty? with
  | none => rfl
  | some r =>
    simp only [htest]
    cases source.priority == h.priority && utf8Length r ≤ h.heldLength <;> rfl

end Lazily

/-! ## What an offer changes -/

/-- How good the route held is: by the priority of its stage, then by its length. -/
def rank (h : RouteHolder) : Nat ×ₗ Nat :=
  toLex (h.priority, h.heldLength)

theorem rank_lt_of_better {r : Text} (hbetter : h.Better source r) :
    h.rank < rank { h with best := some (source, r) } := by
  refine Prod.Lex.toLex_lt_toLex.2 ?_
  rcases hbetter with hlater | ⟨hsame, -, hlonger⟩
  · exact Or.inl hlater
  · exact Or.inr ⟨hsame, hlonger⟩

theorem rank_le_offerWith (h : RouteHolder) (source : RouteSource) (route : Option Text) :
    h.rank ≤ (h.offerWith source route).1.rank := by
  rcases h.offerWith_cases source route with he | ⟨r, -, -, hbetter, he⟩
  · rw [he]
  · rw [he]
    exact le_of_lt (rank_lt_of_better hbetter)

/-- What an offer comes to: a better route is held from then on, or nothing has changed. -/
structure Outcome (h : RouteHolder) (source : RouteSource) (route : Option Text)
    (answer : RouteHolder × Bool) : Prop where
  changed_iff : answer.2 = true ↔
    (answer.1.route, answer.1.priority) ≠ (h.route, h.priority)
  raised : answer.2 = true → ∃ r, route = some r ∧ r ≠ [] ∧
    answer.1 = { h with best := some (source, r) } ∧ h.Better source r
  declined : answer.2 = false → answer.1 = h

theorem outcome_offerWith (h : RouteHolder) (source : RouteSource) (route : Option Text) :
    h.Outcome source route (h.offerWith source route) := by
  rcases h.offerWith_cases source route with he | ⟨r, hr, hne, hbetter, he⟩
  · rw [he]
    exact ⟨⟨nofun, fun hchanged => absurd rfl hchanged⟩, nofun, fun _ => rfl⟩
  · rw [he]
    refine ⟨⟨fun _ hsame => ?_, fun _ => rfl⟩, fun _ => ⟨r, hr, hne, rfl, hbetter⟩, nofun⟩
    -- The rank is made of the route and the priority, so these cannot be what they were.
    obtain ⟨hroute, hpriority⟩ := Prod.mk.inj hsame
    have hrank : rank { h with best := some (source, r) } = h.rank := by
      rw [rank, rank, heldLength, heldLength, hroute, hpriority]
    exact absurd hrank (ne_of_gt (rank_lt_of_better hbetter))

end RouteHolder

namespace RouteBook

variable {b : RouteBook} {handle : Nat} {h : RouteHolder}

theorem holder?_eq_some_iff :
    b.holder? handle = some h ↔
      ∃ i, b.handles[handle]? = some i ∧ b.holders[i]? = some h :=
  Option.bind_eq_some_iff

/-- An operation leaves the holder behind a handle as it is, or is an offer to it. -/
theorem holder?_step (hb : b.holder? handle = some h) (op : RouteOp) :
    ∃ h', (b.step op).holder? handle = some h' ∧
      (h' = h ∨ ∃ source route, h' = (h.offerWith source route).1) := by
  obtain ⟨i, hi, hh⟩ := holder?_eq_some_iff.1 hb
  have hlt := (List.getElem?_eq_some_iff.1 hi).1
  have hlt' := (List.getElem?_eq_some_iff.1 hh).1
  have hadd : ∀ other, (b.add other).holder? handle = some h := fun other =>
    holder?_eq_some_iff.2 ⟨i, by rw [add, List.getElem?_append_left hlt, hi],
      by rw [add, List.getElem?_append_left hlt', hh]⟩
  cases op with
  | new method => exact ⟨h, hadd _, Or.inl rfl⟩
  | blank => exact ⟨h, hadd _, Or.inl rfl⟩
  | clone other =>
    refine ⟨h, ?_, Or.inl rfl⟩
    rw [step, clone]
    split
    · exact holder?_eq_some_iff.2 ⟨i, by rw [List.getElem?_append_left hlt, hi], hh⟩
    · exact hb
  | offer other source route =>
    rw [step, offerWith]
    split
    · exact ⟨h, hb, Or.inl rfl⟩
    · next j hj =>
      split
      · exact ⟨h, hb, Or.inl rfl⟩
      · next h₀ hh₀ =>
        by_cases hji : j = i
        · subst hji
          obtain rfl := Option.some.inj (hh.symm.trans hh₀)
          exact ⟨_, holder?_eq_some_iff.2 ⟨j, hi, List.getElem?_set_self hlt'⟩,
            Or.inr ⟨source, route, rfl⟩⟩
        · exact ⟨h, holder?_eq_some_iff.2 ⟨i, hi, by rw [List.getElem?_set_ne hji, hh]⟩,
            Or.inl rfl⟩

/-- Along a program the rank of what a handle holds never falls. -/
theorem exists_holder?_foldl (hb : b.holder? handle = some h) (program : List RouteOp) :
    ∃ h', (program.foldl step b).holder? handle = some h' ∧ h.rank ≤ h'.rank := by
  induction program generalizing b h with
  | nil => exact ⟨h, hb, le_refl _⟩
  | cons op program ih =>
    obtain ⟨h₁, hb₁, hstep⟩ := holder?_step hb op
    obtain ⟨h₂, hb₂, hle⟩ := ih hb₁
    refine ⟨h₂, hb₂, le_trans ?_ hle⟩
    rcases hstep with rfl | ⟨source, route, rfl⟩
    · exact le_refl _
    · exact h.rank_le_offerWith source route

/-- No holder of the book holds an empty route. -/
def Filled (b : RouteBook) : Prop :=
  ∀ h ∈ b.holders, ∀ r, h.route = some r → r ≠ []

theorem Filled.step (hb : b.Filled) (op : RouteOp) : (b.step op).Filled := by
  have hadd : ∀ h : RouteHolder, h.route = none → (b.add h).Filled := by
    intro h hnone h' hmem r hr
    rcases List.mem_append.1 hmem with hmem | hmem
    · exact hb h' hmem r hr
    · rw [List.mem_singleton.1 hmem, hnone] at hr
      cases hr
  cases op with
  | new method => exact hadd _ rfl
  | blank => exact hadd _ rfl
  | clone other =>
    rw [RouteBook.step, clone]
    split <;> exact hb
  | offer other source route =>
    rw [RouteBook.step, offerWith]
    split
    · exact hb
    · split
      · exact hb
      · next h hh =>
        intro h' hmem r hr
        rcases List.mem_or_eq_of_mem_set hmem with hmem | rfl
        · exact hb h' hmem r hr
        · rcases h.offerWith_cases source route with he | ⟨r', -, hne, -, he⟩
          · rw [he] at hr
            exact hb h (List.mem_of_getElem? hh) r hr
          · rw [he] at hr
            obtain rfl := Option.some.inj hr
            exact hne

theorem filled_run (program : List RouteOp) : (run program).Filled := by
  have hfold : ∀ b : RouteBook, b.Filled → (program.foldl step b).Filled := by
    induction program with
    | nil => exact fun b hb => hb
    | cons op program ih => exact fun b hb => ih _ (hb.step op)
  exact hfold empty fun h hh => absurd hh List.not_mem_nil

/-- **An offer raises what a holder has, or changes nothing.** A route that is computed on demand is
computed exactly if some route of its stage would be accepted, and then the offer is one of the
computed route. The answer says whether route and priority have changed: then the route is the one
computed, which is not empty, and it comes from a later stage, or from the same one that may improve
and is longer; otherwise the holder is as before. So along a program the priority never falls, and a
route, which is never empty, is never lost. -/
theorem offer_raises :
    (∀ (h : RouteHolder) (source : RouteSource),
      (∀ {m : Type → Type} [Monad m] [LawfulMonad m] (compute : m (Option Text)),
        ((∃ r, (h.offer source r).2 = true) →
          h.offerLazily source compute = h.offerWith source <$> compute) ∧
        ((¬ ∃ r, (h.offer source r).2 = true) →
          h.offerLazily source compute = pure (h, false))) ∧
      (∀ r, h.offer source r = h.offerWith source (some r)) ∧
      ∀ route, h.Outcome source route (h.offerWith source route)) ∧
    ∀ (program later : List RouteOp) (handle : Nat) (h : RouteHolder),
      (run program).holder? handle = some h →
      (∀ r, h.route = some r → r ≠ []) ∧
      ∃ h', (run (program ++ later)).holder? handle = some h' ∧
        h.priority ≤ h'.priority ∧ (h.route.isSome → h'.route.isSome) := by
  refine ⟨fun h source => ⟨fun compute => ⟨fun haccepts => ?_, fun hnone => ?_⟩, fun r => rfl,
    fun route => h.outcome_offerWith source route⟩, fun program later handle h hh => ⟨?_, ?_⟩⟩
  · exact RouteHolder.offerLazily_of_considers (RouteHolder.considers_iff.2 haccepts) compute
  · refine RouteHolder.offerLazily_of_not_considers ?_ compute
    rw [Bool.eq_false_iff]
    exact fun hconsiders => hnone (RouteHolder.considers_iff.1 hconsiders)
  · obtain ⟨i, -, hi⟩ := holder?_eq_some_iff.1 hh
    exact filled_run program h (List.mem_of_getElem? hi)
  · have hrun : run (program ++ later) = later.foldl step (run program) := List.foldl_append
    obtain ⟨h', hh', hrank⟩ := exists_holder?_foldl hh later
    have hpriority : h.priority ≤ h'.priority := (Prod.Lex.toLex_le_toLex'.1 hrank).1
    refine ⟨h', by rw [hrun, hh'], hpriority, fun hsome => ?_⟩
    have hne : h.priority ≠ 0 := by
      rw [Ne, RouteHolder.priority_eq_zero_iff]
      exact Option.isSome_iff_ne_none.1 hsome
    rw [Option.isSome_iff_ne_none, Ne, ← RouteHolder.priority_eq_zero_iff]
    omega

/-- With a nested handler's route held, a handler's is not computed, and a nested handler's is, once,
but is not longer; the route is still held after an offer through a clone. -/
theorem offer_raises_nested :
    let compute : StateM Nat (Option Text) := fun runs => (some "/b".toList, runs + 1)
    let held : RouteHolder := ⟨some "GET".toList, some (.nestedHandler, "/a".toList)⟩
    let program : List RouteOp := [.new "GET".toList, .offer 0 .nestedHandler (some "/a".toList)]
    let later : List RouteOp := [.clone 0, .offer 1 .nestedHandler (some "/a/b".toList)]
    (held.offerLazily .handler compute).run 0 = ((held, false), 0) ∧
      (held.offerLazily .nestedHandler compute).run 0 = ((held, false), 1) ∧
      (run program).holder? 0 = some held ∧
      ∃ h, (run (program ++ later)).holder? 0 = some h ∧ held.priority ≤ h.priority ∧
        (held.route.isSome → h.route.isSome) := by
  intro compute held program later
  have hlower : ¬ ∃ r, (held.offer .handler r).2 = true :=
    fun h => absurd (RouteHolder.considers_iff.2 h) (by decide)
  have hlonger : (held.offer .nestedHandler "/a/b".toList).2 = true := by decide
  have hheld : (run program).holder? 0 = some held := by decide
  obtain ⟨hoffer, hrun⟩ := offer_raises
  refine ⟨?_, ?_, hheld, (hrun program later 0 held hheld).2⟩
  · rw [((hoffer held .handler).1 compute).2 hlower]
    rfl
  · rw [((hoffer held .nestedHandler).1 compute).1 ⟨_, hlonger⟩]
    rfl

end RouteBook

end ServerTelemetry
