import ServerTelemetry.Proofs.Collector.Completion
import ServerTelemetry.Proofs.Wiring.Parts

/-!
# Which configurations are refused

With telemetry on, a configuration is refused for an exporter that the program is built without, the
one that prints spans before the one that sends them, and then for a place of the collector that is no
absolute URL. With telemetry off nothing is refused. Building the exporter that sends spans may fail for
reasons of its own; where it does not, a configuration is set up in all other cases
(`refused_in_order`).
-/

namespace ServerTelemetry

open Http

/-! ## Where the collector is -/

namespace Collector

/-- Completing never fails, so the place that settings give decides whether they describe a
collector. -/
theorem ofSettings_of_readUrl {o : OtlpSettings} {url : Uri}
    (h : readUrl (o.endpoint.getD (localPlace o.protocol)) = .ok url) :
    ∃ place, ofSettings o = .ok place := by
  unfold ofSettings
  rw [h]
  cases o.protocol with
  | grpc => exact ⟨_, rfl⟩
  | http =>
    obtain ⟨u, -, -, -, hcomplete⟩ := complete_of_readUrl h
    refine ⟨⟨.http, u.completed.uri, o.timeout⟩, ?_⟩
    change (complete url >>= fun url => Except.ok (⟨.http, url, o.timeout⟩ : Collector)) = _
    rw [hcomplete]
    rfl

/-- Settings describe a collector exactly if the place they give is an absolute URL. -/
theorem ofSettings_isOk_iff (o : OtlpSettings) :
    (∃ place, ofSettings o = .ok place) ↔ ∀ url, o.endpoint = some url → IsAbsoluteUrl url := by
  have hplace : (∃ place, ofSettings o = .ok place) ↔
      ∃ url, readUrl (o.endpoint.getD (localPlace o.protocol)) = .ok url := by
    refine ⟨?_, fun ⟨url, hurl⟩ => ofSettings_of_readUrl hurl⟩
    rintro ⟨place, h⟩
    unfold ofSettings at h
    cases hread : readUrl (o.endpoint.getD (localPlace o.protocol)) with
    | error e =>
      rw [hread] at h
      cases h
    | ok url => exact ⟨url, rfl⟩
  rw [hplace, readUrl_isOk_iff]
  cases o.endpoint with
  | none => simpa using isAbsoluteUrl_localPlace o.protocol
  | some url => simp

/-- What is wrong with settings is the place they give. -/
theorem ofSettings_eq_error {o : OtlpSettings} {url : Text} (hurl : o.endpoint = some url)
    {error : ConfigurationError} (h : ofSettings o = .error error) :
    ∃ reason, error = .endpoint url reason := by
  cases hread : readUrl (o.endpoint.getD (localPlace o.protocol)) with
  | error e =>
    unfold ofSettings at h
    rw [hread] at h
    cases h
    rw [hurl, Option.getD_some] at hread
    exact readUrl_eq_error hread
  | ok found =>
    obtain ⟨place, hplace⟩ := ofSettings_of_readUrl hread
    cases h.symm.trans hplace

end Collector

namespace Wiring

variable {features : Exporter → Bool} {vars : Text → Option Text} {c : Configuration}

/-! ## The checks in their order -/

theorem ofConfiguration_off (hoff : c.telemetry.enabled = false) :
    (ofConfiguration features vars c).2 =
      .ok ⟨none, [], { layerOf c.server with enabled := false }⟩ := by
  simp [ofConfiguration, hoff]

theorem ofConfiguration_lacking_logging (hon : c.telemetry.enabled = true)
    (hlogging : c.telemetry.exporters.logging = true) (hlacks : features .logging = false) :
    (ofConfiguration features vars c).2 = .error (.unavailable .logging) := by
  simp [ofConfiguration, hon, hlogging, hlacks]

/-- Past the exporter that prints spans, the one that sends them decides. -/
theorem ofConfiguration_sending (vars : Text → Option Text) (hon : c.telemetry.enabled = true)
    (hlogging : ¬ (c.telemetry.exporters.logging = true ∧ features .logging = false)) :
    (∀ error, collectorOf features c.telemetry.exporters.otlp = .error error →
      (ofConfiguration features vars c).2 = .error error) ∧
    (∀ collector, collectorOf features c.telemetry.exporters.otlp = .ok collector →
      collector.bind (·.buildError? vars) = none →
      ∃ w, (ofConfiguration features vars c).2 = .ok w) := by
  have hprinting : (c.telemetry.exporters.logging && ! features .logging) = false := by
    simpa using hlogging
  constructor
  · intro error herror
    simp [ofConfiguration, hon, hprinting, herror]
  · intro collector hcollector hbuild
    simp [ofConfiguration, hon, hprinting, hcollector, hbuild]

theorem collectorOf_cases (features : Exporter → Bool) (o : OtlpSettings) :
    (o.enabled = false ∧ collectorOf features o = .ok none) ∨
    (o.enabled = true ∧ features .otlp = false ∧
      collectorOf features o = .error (.unavailable .otlp)) ∨
    (o.enabled = true ∧ features .otlp = true ∧
      collectorOf features o = (Collector.ofSettings o).map some) := by
  unfold collectorOf require
  cases o.enabled with
  | false => exact Or.inl ⟨rfl, rfl⟩
  | true =>
    cases features .otlp with
    | false => exact Or.inr (Or.inl ⟨rfl, rfl, rfl⟩)
    | true =>
      refine Or.inr (Or.inr ⟨rfl, rfl, ?_⟩)
      cases Collector.ofSettings o <;> rfl

/-- What is wrong with the exporters is one of three things, and the first of them is told. -/
theorem ofConfiguration_cases (hon : c.telemetry.enabled = true) (hbuild : ∀ place,
      Collector.ofSettings c.telemetry.exporters.otlp = .ok place → place.buildError? vars = none) :
    let e := c.telemetry.exporters
    let result := (ofConfiguration features vars c).2
    (e.logging = true ∧ features .logging = false → result = .error (.unavailable .logging)) ∧
    (¬ (e.logging = true ∧ features .logging = false) →
      (e.otlp.enabled = true → features .otlp = false → result = .error (.unavailable .otlp)) ∧
      (e.otlp.enabled = true → features .otlp = true → ∀ url, e.otlp.endpoint = some url →
        ¬ IsAbsoluteUrl url → ∃ reason, result = .error (.endpoint url reason)) ∧
      (e.otlp.enabled = true → features .otlp = true →
        (∀ url, e.otlp.endpoint = some url → IsAbsoluteUrl url) → ∃ w, result = .ok w) ∧
      (e.otlp.enabled = false → ∃ w, result = .ok w)) := by
  intro e result
  refine ⟨fun ⟨hlogging, hlacks⟩ => ofConfiguration_lacking_logging hon hlogging hlacks,
    fun hlogging => ?_⟩
  obtain ⟨herror, hok⟩ := ofConfiguration_sending vars hon hlogging
  rcases collectorOf_cases features e.otlp with ⟨hoff, hnone⟩ | ⟨hsend, hlacks, hunavailable⟩ |
    ⟨hsend, hhas, hplace⟩
  · simp only [hoff, Bool.false_eq_true, false_implies, true_and, true_implies]
    exact hok none hnone rfl
  · simp only [hsend, hlacks, true_implies, Bool.false_eq_true, false_implies, and_true,
      Bool.true_eq_false]
    exact herror _ hunavailable
  · simp only [hsend, hhas, true_implies, Bool.true_eq_false, false_implies, and_true, true_and]
    cases hsettings : Collector.ofSettings e.otlp with
    | error error =>
      rw [hsettings] at hplace
      refine ⟨fun url hurl _ => ?_, fun habsolute => ?_⟩
      · obtain ⟨reason, rfl⟩ := Collector.ofSettings_eq_error hurl hsettings
        exact ⟨reason, herror _ hplace⟩
      · obtain ⟨place, hok⟩ := (Collector.ofSettings_isOk_iff e.otlp).2 habsolute
        cases hsettings.symm.trans hok
    | ok place =>
      rw [hsettings] at hplace
      have habsolute := (Collector.ofSettings_isOk_iff e.otlp).1 ⟨place, hsettings⟩
      exact ⟨fun url hurl hnot => absurd (habsolute url hurl) hnot,
        fun _ => hok (some place) hplace (hbuild place hsettings)⟩

/-- **A configuration is refused for its exporters alone, and in this order.** With telemetry on it is
refused if spans are to be printed by a program built without that exporter, or else if they are to be
sent by a program built without that exporter, or else if they are to be sent to a place that is no
absolute URL, and in no other case as long as the exporter for a URL can be built. What is set up
otherwise is on if telemetry is, has a layer that is on if telemetry and the spans of requests are, and
uses the headers of all formats there are if telemetry is on. With telemetry off nothing is refused. -/
theorem refused_in_order (features : Exporter → Bool) (vars : Text → Option Text)
    (c : Configuration) (hbuild : ∀ place,
      Collector.ofSettings c.telemetry.exporters.otlp = .ok place → place.buildError? vars = none) :
    let t := c.telemetry
    let e := t.exporters
    let result := (ofConfiguration features vars c).2
    let lacksLogging := e.logging = true ∧ features .logging = false
    let lacksOtlp := e.otlp.enabled = true ∧ features .otlp = false
    let misplaced := e.otlp.enabled = true ∧ ∃ url, e.otlp.endpoint = some url ∧ ¬ IsAbsoluteUrl url
    ((∃ error, result = .error error) ↔
      t.enabled = true ∧ (lacksLogging ∨ lacksOtlp ∨ misplaced)) ∧
    (t.enabled = true → lacksLogging → result = .error (.unavailable .logging)) ∧
    (t.enabled = true → ¬ lacksLogging → lacksOtlp → result = .error (.unavailable .otlp)) ∧
    (t.enabled = true → ¬ lacksLogging → ¬ lacksOtlp → misplaced →
      ∃ url reason, e.otlp.endpoint = some url ∧ result = .error (.endpoint url reason)) ∧
    ((ConfigurationError.unavailable .logging).message? = some
        ("the logging exporter is enabled but this build lacks the ".toList ++
          "\x60logging-exporter\x60 feature".toList) ∧
      (ConfigurationError.unavailable .otlp).message? = some
        ("the otlp exporter is enabled but this build lacks the ".toList ++
          "\x60otlp\x60 feature".toList)) ∧
    (∀ w, result = .ok w → w.enabled = t.enabled ∧
      w.layer.enabled = (t.enabled && c.server.enabled) ∧
      ∀ field, field ∈ Propagator.headers w.propagators ↔
        t.enabled = true ∧ ∃ p ∈ t.propagators, field ∈ p.fields) ∧
    (t.enabled = false → ∃ w, result = .ok w) := by
  intro t e result lacksLogging lacksOtlp misplaced
  have hoff : t.enabled = false → ∃ w, result = .ok w := fun hoff => ⟨_, ofConfiguration_off hoff⟩
  have hserved : ∀ w, result = .ok w → w.enabled = t.enabled ∧
      w.layer.enabled = (t.enabled && c.server.enabled) ∧
      ∀ field, field ∈ Propagator.headers w.propagators ↔
        t.enabled = true ∧ ∃ p ∈ t.propagators, field ∈ p.fields := by
    intro w hw
    have hserves := serves_of_ok hw
    refine ⟨hserves.enabled_eq, by rw [hserves.layer], fun field => ?_⟩
    rw [Propagator.headers, Text.mem_sorted, List.mem_flatMap]
    cases hon : t.enabled with
    | true => rw [(hserves.on hon).1, eq_self, true_and]
    | false =>
      obtain rfl := Except.ok.inj (hw.symm.trans (ofConfiguration_off hon))
      simp
  have hlogging : t.enabled = true → lacksLogging → result = .error (.unavailable .logging) :=
    fun hon ⟨hprint, hlacks⟩ => ofConfiguration_lacking_logging hon hprint hlacks
  have hotlp : t.enabled = true → ¬ lacksLogging → lacksOtlp →
      result = .error (.unavailable .otlp) := by
    intro hon hnot ⟨hsend, hlacks⟩
    exact ((ofConfiguration_cases hon hbuild).2 hnot).1 hsend hlacks
  have hplace : t.enabled = true → ¬ lacksLogging → ¬ lacksOtlp → misplaced →
      ∃ url reason, e.otlp.endpoint = some url ∧ result = .error (.endpoint url reason) := by
    intro hon hnot hhas ⟨hsend, url, hurl, hrelative⟩
    have hfeature : features .otlp = true := by
      rw [← Bool.not_eq_false]
      exact fun hlacks => hhas ⟨hsend, hlacks⟩
    obtain ⟨reason, hresult⟩ :=
      ((ofConfiguration_cases hon hbuild).2 hnot).2.1 hsend hfeature url hurl hrelative
    exact ⟨url, reason, hurl, hresult⟩
  refine ⟨⟨?_, ?_⟩, hlogging, hotlp, hplace, ⟨by decide, by decide⟩, hserved, hoff⟩
  · rintro ⟨error, herror⟩
    have hrefused : ∀ {p : Prop}, (∃ w, result = .ok w) → p := by
      rintro p ⟨w, hw⟩
      cases herror.symm.trans hw
    cases hon : t.enabled with
    | false => exact hrefused (hoff hon)
    | true =>
      refine ⟨rfl, by_contra fun hnone => ?_⟩
      obtain ⟨hnot, hhas, hplaced⟩ := by simpa only [not_or] using hnone
      obtain ⟨-, -, hsent, hkept⟩ := (ofConfiguration_cases hon hbuild).2 hnot
      cases hsend : e.otlp.enabled with
      | false => exact hrefused (hkept hsend)
      | true =>
        have hfeature : features .otlp = true := by
          rw [← Bool.not_eq_false]
          exact fun hlacks => hhas ⟨hsend, hlacks⟩
        refine hrefused (hsent hsend hfeature fun url hurl => ?_)
        exact by_contra fun hrelative => hplaced ⟨hsend, url, hurl, hrelative⟩
  · rintro ⟨hon, hany⟩
    by_cases h : lacksLogging
    · exact ⟨_, hlogging hon h⟩
    · by_cases h' : lacksOtlp
      · exact ⟨_, hotlp hon h h'⟩
      · obtain ⟨url, reason, -, hresult⟩ :=
          hplace hon h h' ((hany.resolve_left h).resolve_left h')
        exact ⟨_, hresult⟩

/-- Spans are to be sent by a program built without exporters. -/
theorem refused_in_order_otlp :
    let o : OtlpSettings := { enabled := true, endpoint := some "http://collector:4318".toList }
    let c : Configuration := { telemetry := { exporters := { otlp := o } } }
    (∀ place, Collector.ofSettings o = .ok place → place.buildError? (fun _ => none) = none) ∧
      (ofConfiguration (fun _ => false) (fun _ => none) c).2 = .error (.unavailable .otlp) := by
  intro o c
  obtain ⟨place, hplace, hbuilt⟩ : ∃ place, Collector.ofSettings o = .ok place ∧
      place.buildError? (fun _ => none) = none := ⟨_, rfl, rfl⟩
  have hbuild : ∀ place, Collector.ofSettings o = .ok place →
      place.buildError? (fun _ => none) = none := by
    intro other hother
    rw [hplace] at hother
    cases hother
    exact hbuilt
  refine ⟨hbuild, (refused_in_order (fun _ => false) (fun _ => none) c hbuild).2.2.1 rfl ?_ ⟨rfl, rfl⟩⟩
  rintro ⟨hprint, -⟩
  cases hprint

end Wiring

end ServerTelemetry
