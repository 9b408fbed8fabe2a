import Mathlib.Data.List.Induction
import ServerTelemetry.Proofs.Configuration.Refusal

/-!
# Environments in layers

An environment either leaves a setting alone or puts one value into it, the same into all
configurations (`overrideAll_setting`), and whether it is refused is not up to the configuration
either. So applying it again changes nothing, also if it is refused, and environments with nothing in
common can change places. Several that are taken one after another come to one environment in which
every variable has the last of its texts (`overridden_merged`).
-/

namespace ServerTelemetry

open Text

namespace Environment

/-- The environment in which every variable has the last of its texts that are not blank. -/
def merged (es : List Environment) : Environment := fun v =>
  (es.filterMap (·.filled? v)).getLast?

/-- None of the texts that are merged is blank. -/
theorem filled?_merged (es : List Environment) (v : Variable) :
    (merged es).filled? v = merged es v := by
  cases hs : merged es v with
  | none => rw [filled?, hs, Option.filter_none]
  | some s =>
    obtain ⟨e, -, he⟩ := List.mem_filterMap.1 (List.mem_of_getLast? hs)
    exact filled?_eq_some_iff.2 ⟨hs, (filled?_eq_some_iff.1 he).2⟩

/-- A text of the last environment counts, else what counts before it. -/
theorem filled?_merged_concat (es : List Environment) (e : Environment) (v : Variable) :
    (merged (es ++ [e])).filled? v = (e.filled? v).or ((merged es).filled? v) := by
  rw [filled?_merged, filled?_merged, merged, List.filterMap_append]
  cases hs : e.filled? v with
  | none =>
    simp only [List.filterMap_cons, hs, List.filterMap_nil, List.append_nil]
    rfl
  | some s =>
    simp only [List.filterMap_cons, hs, List.filterMap_nil, List.getLast?_concat]
    rfl

end Environment

namespace Configuration

/-! ## What an environment does to all configurations -/

/-- A setting is left alone, or one value is put into it whatever it was. -/
theorem overrideAll_setting (e : Environment) (vs : List Variable) (u : Variable) :
    ∃ x : Option u.Value, ((∀ s, ¬ e.Sets u s) → x = none) ∧
      ∀ c, (overrideAll e vs c).1.setting u = x.getD (c.setting u) := by
  induction vs with
  | nil => exact ⟨none, fun _ => rfl, fun _ => rfl⟩
  | cons v vs ih =>
    obtain ⟨x, hx, hrest⟩ := ih
    rcases overrideAll_cons_cases e v with ⟨y, hy, hstep⟩ | ⟨s, error, hs, -, -, hstep⟩
    · by_cases hu : u = v
      · subst hu
        refine ⟨x.or y, fun hunset => by rw [hx hunset, hy hunset, Option.or_none], fun c => ?_⟩
        rw [hstep, hrest, setting_putIf_self]
        cases x <;> rfl
      · refine ⟨x, hx, fun c => ?_⟩
        rw [hstep, hrest, setting_putIf_of_ne c hu]
    -- What follows a variable that is refused does not matter.
    · by_cases hu : u = v
      · subst hu
        refine ⟨u.leaves s, fun hunset => absurd hs (hunset s), fun c => ?_⟩
        rw [hstep, setting_putIf_self]
      · refine ⟨none, fun _ => rfl, fun c => ?_⟩
        rw [hstep, setting_putIf_of_ne c hu]
        rfl

theorem overrideAll_error_congr (e : Environment) (vs : List Variable) (c d : Configuration) :
    (overrideAll e vs c).2 = (overrideAll e vs d).2 := by
  induction vs generalizing c d with
  | nil => rfl
  | cons v vs ih =>
    rcases overrideAll_cons_cases e v with ⟨x, -, hstep⟩ | ⟨s, error, -, -, -, hstep⟩
    · rw [hstep, hstep]
      exact ih _ _
    · rw [hstep, hstep]

theorem overrideAll_ungoverned (e : Environment) (vs : List Variable) (c : Configuration) :
    (overrideAll e vs c).1.ungoverned = c.ungoverned := by
  induction vs generalizing c with
  | nil => rfl
  | cons v vs ih =>
    rcases overrideAll_cons_cases e v with ⟨x, -, hstep⟩ | ⟨s, error, -, -, -, hstep⟩
    · rw [hstep, ih, ungoverned_putIf]
    · rw [hstep, ungoverned_putIf]

variable (c : Configuration) (e f : Environment)

/-- An environment does nothing new to a configuration that it has been applied to. -/
theorem apply_again : (c.apply e).1.apply e = c.apply e := by
  refine Prod.ext (ext_setting (fun v => ?_) ?_) (overrideAll_error_congr e _ _ _)
  · obtain ⟨x, -, hx⟩ := overrideAll_setting e Variable.all v
    rw [apply, apply, hx, hx]
    cases x <;> rfl
  · exact overrideAll_ungoverned e _ _

/-- Environments that have no variable in common can change places. -/
theorem apply_comm {e f : Environment} (h : ∀ v, e.filled? v = none ∨ f.filled? v = none) :
    ((c.apply e).1.apply f).1 = ((c.apply f).1.apply e).1 := by
  refine ext_setting (fun v => ?_) ?_
  · obtain ⟨x, hxnone, hx⟩ := overrideAll_setting e Variable.all v
    obtain ⟨y, hynone, hy⟩ := overrideAll_setting f Variable.all v
    rw [apply, apply, apply, apply, hx, hy, hx, hy]
    rcases h v with hnone | hnone
    · rw [hxnone (Environment.filled?_eq_none_iff.1 hnone)]
      rfl
    · rw [hynone (Environment.filled?_eq_none_iff.1 hnone)]
      rfl
  · simp only [apply, overrideAll_ungoverned]

/-! ## One after another -/

variable {c d d' : Configuration} {e f g : Environment}

theorem withEnvironment_eq_ok_iff : c.withEnvironment e = .ok d ↔ c.apply e = (d, none) := by
  rw [withEnvironment]
  rcases c.apply e with ⟨c', _ | error⟩
  · simp
  · simp

/-- What is overridden says that the environment is taken. -/
theorem Overridden.apply_eq (h : c.Overridden e d) : c.apply e = (d, none) := by
  cases herror : (c.apply e).2 with
  | none =>
    have hd : d = (c.apply e).1 := h.unique (overridden_of_apply (Prod.ext rfl herror))
    exact Prod.ext hd.symm herror
  | some error =>
    obtain ⟨-, v, -, s, -, -, hs, hmalformed, -⟩ := overrideAll_error (Prod.ext rfl herror)
    exact absurd (h.governed v s hs) (hmalformed _)

/-- Overriding twice is overriding by the later texts, and by the earlier ones where there is no
later one. -/
theorem Overridden.trans (h : c.Overridden e d) (h' : d.Overridden f d')
    (hg : ∀ v, g.filled? v = (f.filled? v).or (e.filled? v)) : c.Overridden g d' := by
  refine ⟨fun v s hs => ?_, fun v hs => ?_, h'.ungoverned.trans h.ungoverned⟩
  · rw [← Environment.filled?_eq_some_iff, hg, Option.or_eq_some_iff] at hs
    rcases hs with hs | ⟨hnone, hs⟩
    · exact h'.governed v s (Environment.filled?_eq_some_iff.1 hs)
    · rw [h'.kept v (Environment.filled?_eq_none_iff.1 hnone)]
      exact h.governed v s (Environment.filled?_eq_some_iff.1 hs)
  · rw [← Environment.filled?_eq_none_iff, hg, Option.or_eq_none_iff] at hs
    rw [h'.kept v (Environment.filled?_eq_none_iff.1 hs.1),
      h.kept v (Environment.filled?_eq_none_iff.1 hs.2)]

/-- Environments that are taken one after another come to their merged one. -/
theorem overridden_merged {es : List Environment} (h : es.foldlM withEnvironment c = .ok d) :
    c.Overridden (.merged es) d := by
  -- From the end, as the last environment comes before all others in the merged one.
  induction es using List.reverseRecOn generalizing d with
  | nil =>
    obtain rfl : c = d := Except.ok.inj h
    exact ⟨fun v s hs => (nomatch hs.1), fun _ _ => rfl, rfl⟩
  | append_singleton es e ih =>
    rw [List.foldlM_append] at h
    cases hes : es.foldlM withEnvironment c with
    | error error =>
      rw [hes] at h
      cases h
    | ok c' =>
      rw [hes] at h
      change [e].foldlM withEnvironment c' = .ok d at h
      simp only [List.foldlM_cons, List.foldlM_nil, bind_pure] at h
      exact (ih hes).trans (overridden_of_apply (withEnvironment_eq_ok_iff.1 h))
        (Environment.filled?_merged_concat es e)

/-- **Environments compose.** If each of several environments is taken after those before it, they
come to one call with their merged environment. Applying an environment again changes nothing, and
if it is refused it is refused with the same error. Environments with no variable in common give the
same configuration in either order, and the same errors. -/
theorem apply_layers (c : Configuration) :
    (∀ (es : List Environment) (d : Configuration), es.foldlM withEnvironment c = .ok d →
      c.apply (.merged es) = (d, none)) ∧
    (∀ e, (c.apply e).1.apply e = c.apply e) ∧
    ∀ e f : Environment, (∀ v, e.filled? v = none ∨ f.filled? v = none) →
      ((c.apply e).1.apply f).1 = ((c.apply f).1.apply e).1 ∧
      ((c.apply e).1.apply f).2 = (c.apply f).2 ∧ ((c.apply f).1.apply e).2 = (c.apply e).2 :=
  ⟨fun _ _ h => (overridden_merged h).apply_eq, c.apply_again, fun e f h =>
    ⟨c.apply_comm h, overrideAll_error_congr f _ _ _, overrideAll_error_congr e _ _ _⟩⟩

/-- A blank text does not take a name back, and `none` turns off what an earlier list turned on. A
list that is refused can still change places with a name. -/
theorem apply_layers_shop :
    let only (v : Variable) (s : String) : Environment :=
      fun u => if u = v then some s.toList else none
    let shop : Configuration := { telemetry := { serviceName := some "shop".toList } }
    let es := [only .serviceName "shop", only .exporters "console", only .serviceName " ",
      only .exporters "none"]
    es.foldlM withEnvironment {} = .ok shop ∧ apply {} (.merged es) = (shop, none) ∧
      (apply (apply {} (only .exporters "otlp,zipkin")).1 (only .serviceName "shop")).1
        = (apply (apply {} (only .serviceName "shop")).1 (only .exporters "otlp,zipkin")).1 := by
  intro only shop es
  have htaken : es.foldlM withEnvironment {} = .ok shop := rfl
  refine ⟨htaken, (apply_layers {}).1 es shop htaken, ((apply_layers {}).2.2 _ _ fun v => ?_).1⟩
  cases v <;> first | exact Or.inl rfl | exact Or.inr rfl

end Configuration

end ServerTelemetry
