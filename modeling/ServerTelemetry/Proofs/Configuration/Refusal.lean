import ServerTelemetry.Proofs.Configuration.Override

/-!
# What a refused environment leaves behind

Overriding by a text puts one value into one setting or is refused, and which of both does not
depend on the configuration (`override_cases`), so neither does what a variable does
(`overrideAll_cons_cases`). An environment is refused at the first of its variables that is
malformed. Those before it are applied then, and those after it are not (`overrideAll_refused`). The
variable itself leaves its setting alone, unless it lists exporters: these are turned off before the
list is read, and the names in front of the unknown one are turned on (`Variable.leaves`,
`apply_refused`).
-/

namespace ServerTelemetry

open Text

/-- What a text that is refused puts into the setting of its variable, if anything. -/
def Variable.leaves : (v : Variable) → Text → Option v.Value
  | .exporters, s => some (exportersNamed (knownExporters (items s)))
  | _, _ => none

theorem Variable.leaves_of_ne {v : Variable} (hv : v ≠ .exporters) (s : Text) :
    v.leaves s = none := by
  cases v <;> first | rfl | exact absurd rfl hv

namespace Configuration

/-- The configuration with another value of one setting, if there is one. -/
def putIf (c : Configuration) (v : Variable) : Option v.Value → Configuration
  | some x => c.put v x
  | none => c

@[simp] theorem putIf_none (c : Configuration) (v : Variable) : c.putIf v none = c := rfl

@[simp] theorem setting_putIf_self (c : Configuration) (v : Variable) (x : Option v.Value) :
    (c.putIf v x).setting v = x.getD (c.setting v) := by
  cases x with
  | none => rfl
  | some x => exact c.setting_put_self v x

theorem setting_putIf_of_ne (c : Configuration) {v u : Variable} (h : u ≠ v)
    (x : Option v.Value) : (c.putIf v x).setting u = c.setting u := by
  cases x with
  | none => rfl
  | some x => exact c.setting_put_of_ne h x

@[simp] theorem ungoverned_putIf (c : Configuration) (v : Variable) (x : Option v.Value) :
    (c.putIf v x).ungoverned = c.ungoverned := by
  cases x with
  | none => rfl
  | some x => exact c.ungoverned_put v x

/-! ## One text -/

/-- Whether a text is refused, and with which error, is not up to the configuration. -/
theorem override_error (c d : Configuration) (s : Text) (v : Variable) :
    (c.override s v).2 = (d.override s v).2 := by
  cases v with
  | serviceName | endpoint | requestHeaders | responseHeaders | knownMethods => rfl
  | exporters => rw [override_exporters, override_exporters]
  | propagators =>
    simp only [override]
    split <;> rfl
  | disabled | protocol | timeout | serverEnabled | preferForwardedScheme =>
    simp only [override, overrideIf]
    split <;> rfl

/-- A text is read before anything is written, but for a list of exporters. -/
theorem override_refused {c : Configuration} {s : Text} {v : Variable} {error : ConfigurationError}
    (h : (c.override s v).2 = some error) : (c.override s v).1 = c.putIf v (v.leaves s) := by
  cases v with
  | serviceName | endpoint | requestHeaders | responseHeaders | knownMethods => cases h
  | exporters =>
    rw [override_exporters]
    rfl
  | propagators =>
    simp only [override] at h ⊢
    split at h
    · cases h
    · rfl
  | disabled | protocol | timeout | serverEnabled | preferForwardedScheme =>
    simp only [override, overrideIf] at h ⊢
    split at h
    · cases h
    · rfl

/-- **A text does the same to all configurations**: it puts what it denotes into the setting of its
variable, or it is refused with an error about it. -/
theorem override_cases (s : Text) (v : Variable) :
    (∃ x, v.Denotes s x ∧ ∀ c : Configuration, c.override s v = (c.put v x, none)) ∨
      ∃ error, (∀ x, ¬ v.Denotes s x) ∧ v.Complains s error ∧
        ∀ c : Configuration, c.override s v = (c.putIf v (v.leaves s), some error) := by
  by_cases hdenotes : ∃ x, v.Denotes s x
  · obtain ⟨x, hx⟩ := hdenotes
    refine Or.inl ⟨x, hx, fun c => ?_⟩
    have hfollows := c.follows_override s v
    generalize c.override s v = outcome at hfollows ⊢
    cases hfollows with
    | put hy => rw [hy.inj hx]
    | refused hmalformed => exact absurd hx (hmalformed x)
  -- The default configuration tells which error it is for all of them.
  · obtain ⟨error, herror, hcomplains⟩ :
        ∃ error, (override {} s v).2 = some error ∧ v.Complains s error := by
      have hfollows := Configuration.follows_override {} s v
      generalize override {} s v = outcome at hfollows ⊢
      cases hfollows with
      | put hx => exact absurd ⟨_, hx⟩ hdenotes
      | refused _ hcomplains => exact ⟨_, rfl, hcomplains⟩
    refine Or.inr ⟨error, fun x hx => hdenotes ⟨x, hx⟩, hcomplains, fun c => ?_⟩
    have hc : (c.override s v).2 = some error := (override_error c {} s v).trans herror
    exact Prod.ext (override_refused hc) hc

/-! ## Many variables -/

variable {e : Environment} {vs : List Variable} {c d : Configuration} {error : ConfigurationError}

/-- **A variable does the same to all configurations**: it leaves its setting alone or puts one value
into it, and the others follow, or it is refused and ends it. -/
theorem overrideAll_cons_cases (e : Environment) (v : Variable) :
    (∃ x : Option v.Value, ((∀ s, ¬ e.Sets v s) → x = none) ∧
      ∀ vs c, overrideAll e (v :: vs) c = overrideAll e vs (c.putIf v x)) ∨
    ∃ s error, e.Sets v s ∧ (∀ x, ¬ v.Denotes s x) ∧ v.Complains s error ∧
      ∀ vs c, overrideAll e (v :: vs) c = (c.putIf v (v.leaves s), some error) := by
  by_cases hset : ∃ s, e.Sets v s
  · obtain ⟨s, hs⟩ := hset
    have hfilled := Environment.filled?_eq_some_iff.2 hs
    rcases override_cases s v with ⟨x, -, hput⟩ | ⟨error, hmalformed, hcomplains, hrefused⟩
    · refine Or.inl ⟨some x, fun hunset => absurd hs (hunset s), fun vs c => ?_⟩
      simp only [overrideAll, hfilled, hput, putIf]
    · refine Or.inr ⟨s, error, hs, hmalformed, hcomplains, fun vs c => ?_⟩
      simp only [overrideAll, hfilled, hrefused]
  · exact Or.inl ⟨none, fun _ => rfl, fun _ _ => overrideAll_of_unset (not_exists.1 hset)⟩

/-- What refusing one of some variables comes to: those before it are applied. -/
theorem overrideAll_refused (h : overrideAll e vs c = (d, some error)) :
    ∃ earlier v later s before, vs = earlier ++ v :: later ∧
      overrideAll e earlier c = (before, none) ∧ e.Sets v s ∧
      (∀ x, ¬ v.Denotes s x) ∧ v.Complains s error ∧ d = before.putIf v (v.leaves s) := by
  induction vs generalizing c with
  | nil => cases congrArg Prod.snd h
  | cons v vs ih =>
    rcases overrideAll_cons_cases e v with
      ⟨x, -, hstep⟩ | ⟨s, failed, hs, hmalformed, hcomplains, hstep⟩
    · rw [hstep] at h
      obtain ⟨earlier, u, later, t, before, rfl, hbefore, hu⟩ := ih h
      exact ⟨v :: earlier, u, later, t, before, rfl, (hstep earlier c).trans hbefore, hu⟩
    · obtain ⟨rfl, hfailed⟩ := Prod.mk.inj ((hstep vs c).symm.trans h)
      obtain rfl := Option.some.inj hfailed
      exact ⟨[], v, vs, s, c, rfl, rfl, hs, hmalformed, hcomplains, rfl⟩

/-- **What a refused environment leaves behind.** The error is about one variable, whose text denotes
nothing. The settings of the variables before it have what the environment says, and those of the
variables after it what they had. So has its own setting, unless it is the list of exporters: that
one has what the names before the first unknown one say. -/
theorem apply_refused (h : c.apply e = (d, some error)) :
    ∃ earlier v later s, Variable.all = earlier ++ v :: later ∧ e.Sets v s ∧
      (∀ x, ¬ v.Denotes s x) ∧ v.Complains s error ∧
      (∀ u ∈ earlier, (∀ t, e.Sets u t → u.Denotes t (d.setting u)) ∧
        ((∀ t, ¬ e.Sets u t) → d.setting u = c.setting u)) ∧
      (v ≠ .exporters → d.setting v = c.setting v) ∧
      (v = .exporters → ∃ names, Lists s names ∧
        d.setting .exporters = exportersNamed (knownExporters names)) ∧
      (∀ u ∈ later, d.setting u = c.setting u) ∧ d.ungoverned = c.ungoverned := by
  obtain ⟨earlier, v, later, s, before, hall, hbefore, hs, hmalformed, hcomplains, rfl⟩ :=
    overrideAll_refused h
  -- No variable comes twice, so what is applied before this one is not about it or a later one.
  have hnodup : (earlier ++ v :: later).Nodup := hall ▸ by decide
  obtain ⟨hearlier, hlater, hdisjoint⟩ := List.nodup_append.1 hnodup
  have hne : ∀ u ∈ earlier, u ≠ v := fun u hu => hdisjoint u hu v List.mem_cons_self
  have hafter : ∀ u ∈ v :: later, u ∉ earlier :=
    fun u hu hmem => hdisjoint u hmem u hu rfl
  obtain ⟨hgoverned, hkept, hrest⟩ := overrideAll_settles hearlier hbefore
  refine ⟨earlier, v, later, s, hall, hs, hmalformed, hcomplains, fun u hu => ?_, fun hv => ?_,
    ?_, fun u hu => ?_, ?_⟩
  · rw [setting_putIf_of_ne _ (hne u hu)]
    exact ⟨hgoverned u hu, fun hnone => hkept u fun _ => hnone⟩
  · rw [Variable.leaves_of_ne hv, putIf_none]
    exact hkept v fun hmem => absurd hmem (hafter v List.mem_cons_self)
  · rintro rfl
    exact ⟨items s, lists_items s, setting_putIf_self before .exporters _⟩
  · have huv : u ≠ v := by
      rintro rfl
      exact (List.nodup_cons.1 hlater).1 hu
    rw [setting_putIf_of_ne _ huv]
    exact hkept u fun hmem => absurd hmem (hafter u (List.mem_cons_of_mem v hu))
  · rw [ungoverned_putIf, hrest]

/-- A list with an unknown exporter at its end is refused, and yet turns one exporter off and the
other one on. -/
theorem apply_refused_exporters :
    let c : Configuration := { telemetry := { exporters := { logging := true } } }
    let list := "otlp,zipkin".toList
    let e : Environment := fun v => if v = .exporters then some list else none
    (c.apply e).2 = some (.environment .exporters list) ∧
      ∃ earlier later, Variable.all = earlier ++ .exporters :: later ∧ e.Sets .exporters list ∧
        (∀ x, ¬ Variable.Denotes .exporters list x) ∧ Lists list ["otlp".toList, "zipkin".toList] ∧
        c.setting .exporters = (true, false) ∧
        (c.apply e).1.setting .exporters = (false, true) ∧
        ∀ u ∈ later, (c.apply e).1.setting u = c.setting u := by
  intro c list e
  have hrefused : (c.apply e).2 = some (.environment .exporters list) := by decide
  obtain ⟨earlier, v, later, s, hall, hs, hmalformed, -, -, -, hown, hlater, -⟩ :=
    apply_refused (c := c) (e := e) (Prod.ext rfl hrefused)
  obtain ⟨rfl, hlist⟩ := Option.ite_none_right_eq_some.1 hs.1
  obtain rfl : list = s := Option.some.inj hlist
  obtain ⟨names, hnames, hsetting⟩ := hown rfl
  obtain rfl : ["otlp".toList, "zipkin".toList] = names := lists_iff.1 hnames
  exact ⟨hrefused, earlier, later, hall, hs, hmalformed, hnames, rfl, hsetting, hlater⟩

/-- Not every refused text leaves its own setting alone. -/
theorem refused_text_applied :
    ¬ ∀ (c : Configuration) (e : Environment) (v : Variable) (s : Text),
      (c.apply e).2 = some (.environment v s) → (c.apply e).1.setting v = c.setting v := by
  intro h
  let e : Environment := fun v => if v = .exporters then some "otlp,zipkin".toList else none
  have hkept : (false, true) = (true, false) :=
    h { telemetry := { exporters := { logging := true } } } e .exporters "otlp,zipkin".toList
      (by decide)
  cases hkept

end Configuration

end ServerTelemetry
