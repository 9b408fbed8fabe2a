import ServerTelemetry.Wiring

/-!
# The parts that are set up

A wiring that comes of a configuration has the parts the configuration asks for
(`Wiring.serves_of_ok`): with telemetry on its propagation formats and a provider that serves its
settings, with telemetry off no provider, and the layer of its settings either way.
-/

namespace ServerTelemetry

/-- The provider has spans go where settings say, in a process with some variables. -/
structure Provider.Serves (vars : Text → Option Text) (t : TelemetrySettings) (o : Provider) :
    Prop where
  resource : o.resource = Resource.configured t (Resource.detected vars)
  printing : o.printing = t.exporters.logging
  sending : o.collector.isSome = t.exporters.otlp.enabled
  collector : ∀ place ∈ o.collector, Collector.ofSettings t.exporters.otlp = .ok place
  recording : o.recording = .ofVariables vars

namespace Wiring

/-- The parts are those that a configuration asks for, in a process with some variables. -/
structure Serves (vars : Text → Option Text) (c : Configuration) (w : Wiring) : Prop where
  on : c.telemetry.enabled = true → w.propagators = c.telemetry.propagators ∧
    ∃ provider, w.provider = some provider ∧ provider.Serves vars c.telemetry
  off : c.telemetry.enabled = false → w.provider = none
  layer : w.layer =
    { layerOf c.server with enabled := c.telemetry.enabled && c.server.enabled }

theorem Serves.enabled_eq {vars : Text → Option Text} {c : Configuration} {w : Wiring}
    (h : w.Serves vars c) : w.enabled = c.telemetry.enabled := by
  cases henabled : c.telemetry.enabled with
  | true =>
    obtain ⟨-, provider, hprovider, -⟩ := h.on henabled
    rw [enabled, hprovider]
    rfl
  | false =>
    rw [enabled, h.off henabled]
    rfl

/-- There is a collector exactly if spans are to be sent, and it is the one of the settings. -/
theorem collectorOf_eq_ok {features : Exporter → Bool} {o : OtlpSettings}
    {collector : Option Collector} (h : collectorOf features o = .ok collector) :
    collector.isSome = o.enabled ∧ ∀ place ∈ collector, Collector.ofSettings o = .ok place := by
  rw [collectorOf] at h
  cases henabled : o.enabled with
  | false =>
    rw [henabled] at h
    obtain rfl : none = collector := Except.ok.inj h
    exact ⟨rfl, fun _ hplace => nomatch hplace⟩
  | true =>
    rw [henabled, if_pos rfl, require] at h
    by_cases hfeature : features .otlp = true
    · rw [if_pos hfeature] at h
      cases hplace : Collector.ofSettings o with
      | error error =>
        rw [hplace] at h
        cases h
      | ok place =>
        rw [hplace] at h
        obtain rfl : some place = collector := Except.ok.inj h
        refine ⟨rfl, fun other hother => ?_⟩
        rw [Option.some.inj hother]
    · rw [if_neg hfeature] at h
      cases h

/-- **What is set up is what the configuration asks for.** -/
theorem serves_of_ok {features : Exporter → Bool} {vars : Text → Option Text} {c : Configuration}
    {w : Wiring} (h : (ofConfiguration features vars c).2 = .ok w) : w.Serves vars c := by
  simp only [ofConfiguration] at h
  cases henabled : c.telemetry.enabled with
  | false =>
    simp only [henabled, Bool.not_false, ↓reduceIte, Except.ok.injEq] at h
    subst h
    exact ⟨fun hon => absurd (henabled.symm.trans hon) Bool.false_ne_true, fun _ => rfl, by
      rw [henabled, Bool.false_and]⟩
  | true =>
    simp only [henabled, Bool.not_true, Bool.false_eq_true, ↓reduceIte] at h
    split at h
    · cases h
    · split at h
      · cases h
      · next collector hcollector =>
        split at h
        · cases h
        · obtain ⟨hsending, hplace⟩ := collectorOf_eq_ok hcollector
          obtain rfl := Except.ok.inj h
          exact ⟨fun _ => ⟨rfl, _, rfl, ⟨rfl, rfl, hsending, hplace, rfl⟩⟩,
            fun hoff => absurd (hoff.symm.trans henabled) Bool.false_ne_true, by
              rw [henabled, Bool.true_and]; rfl⟩

end Wiring

end ServerTelemetry
