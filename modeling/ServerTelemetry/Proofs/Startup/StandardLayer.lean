import ServerTelemetry.Proofs.Startup.AllOrNothing

/-!
# The layer the caller keeps and the standard layer

A start that succeeds gives the caller the provider it installs (`start_ok`). Where the settings of
the layer are the default ones, the caller's layer is the standard layer of the process, and nothing
that goes through it tells the two apart (`Attempt.default_layer_standard`).
-/

namespace ServerTelemetry

/-- The default settings record what is standard. -/
theorem Wiring.layerOf_default : layerOf {} = Installation.standardLayer := by
  have hnames : headerNames [] = [] := rfl
  simp only [layerOf, Extractor.ofOptions, hnames]
  rfl

namespace Startup

variable {features : Exporter → Bool} {vars : Text → Option Text} {p : Installation}
  {c : Configuration} {g : Guard}

/-- What the caller gets of a start are the parts that it installs. -/
theorem start_ok (h : (start features vars p c).result = .ok g) :
    ∃ w filter, Ready features vars p c w filter ∧ g = ⟨w.provider, w.layer⟩ ∧
      (start features vars p c).process =
        Installation.installTelemetry { p with log := some ⟨filter, c.logging.format⟩ } w := by
  rcases start_cases features vars p c with ⟨w, filter, hready, hresult, -⟩ | ⟨error, -, hresult, -⟩
  · refine ⟨w, filter, hready, Except.ok.inj (h.symm.trans hresult), ?_⟩
    simp only [start, hready.wiring, hready.filter, Installation.installLog?_of_none hready.log]
  · cases h.symm.trans hresult

/-- With telemetry on, the provider of the caller is the one that is installed. -/
theorem provider_installed (h : (start features vars p c).result = .ok g)
    (hon : c.telemetry.enabled = true) :
    (start features vars p c).process.provider = g.provider := by
  obtain ⟨w, filter, hready, rfl, hprocess⟩ := start_ok h
  have henabled : w.enabled = true := (Wiring.serves_of_ok hready.wiring).enabled_eq.trans hon
  rw [hprocess, Installation.installTelemetry, if_pos henabled]

/-- With telemetry on and the default settings of the layer, the caller's layer is the standard one. -/
theorem tracedLayer_eq (h : (start features vars p c).result = .ok g)
    (hon : c.telemetry.enabled = true) (hserver : c.server = {}) :
    g.tracedLayer = (start features vars p c).process.tracedLayer := by
  have hlayer : g.layer = Installation.standardLayer := by
    obtain ⟨w, filter, hready, rfl, -⟩ := start_ok h
    have hserves := Wiring.serves_of_ok hready.wiring
    rw [hserves.layer, hserver, hon, Wiring.layerOf_default]
    rfl
  rw [Guard.tracedLayer, Installation.tracedLayer, hlayer, provider_installed h hon]

namespace Attempt

/-- **The caller's layer and the standard layer agree.** Let an attempt to start telemetry succeed,
whatever has been attempted in the process before, with a configuration that has telemetry on and the
default settings for the spans of requests. From then on, whatever is attempted later, an exchange goes
through the layer the caller keeps as it goes through the standard layer of the process: every offer
of a route has the same result, the caller gets the same outcome, and the spans that are reported are
the same, under the same scope. So it is with the calls of a whole session. -/
theorem default_layer_standard (features : Exporter → Bool) (p : Installation)
    (before : List Attempt) (a : Attempt) (later : List Attempt) {c : Configuration} {g : Guard}
    (hc : a.configuration = .ok c)
    (hstart : (a.start features (after features p before)).result = .ok g)
    (hon : c.telemetry.enabled = true) (hserver : c.server = {}) :
    let process := after features p (before ++ a :: later)
    g.provider.isSome = true ∧ g.provider = process.provider ∧
    (∀ x : Exchange,
      g.tracedLayer.exchange process x = process.tracedLayer.exchange process x ∧
      g.tracedLayer.spans process x = process.tracedLayer.spans process x) ∧
    ∀ (s : Session) (steps : List Step),
      Session.run (g.tracedLayer.service process) s steps
        = Session.run (process.tracedLayer.service process) s steps := by
  intro process
  have hsucceeded : (a.start features (after features p before)).succeeded = true := by
    rw [Start.succeeded, hstart]
    rfl
  have hprocess : process = (a.start features (after features p before)).process := by
    calc process = after features (a.start features (after features p before)).process later :=
          after_append features p before (a :: later)
      _ = _ := after_of_log (log_of_succeeded hsucceeded) later
  rw [start_of_configuration hc] at hstart hprocess
  have hprovider := provider_installed hstart hon
  have hlayer : g.tracedLayer = process.tracedLayer := by
    rw [hprocess]
    exact tracedLayer_eq hstart hon hserver
  refine ⟨?_, ?_, fun x => ?_, fun s steps => ?_⟩
  · obtain ⟨w, filter, hready, rfl, -⟩ := start_ok hstart
    obtain ⟨-, provider, hsome, -⟩ := (Wiring.serves_of_ok hready.wiring).on hon
    rw [hsome]
    rfl
  · rw [hprocess, hprovider]
  · rw [hlayer]
    exact ⟨rfl, rfl⟩
  · rw [hlayer]

/-- A request that is routed on the way, after a start that failed and one that succeeded. -/
theorem default_layer_standard_routed :
    let missing : Attempt := ⟨fun _ => none, fun _ => .error .missing, .found (some "a.yaml".toList)⟩
    let shop : Attempt := ⟨fun _ => none, fun _ => .error .missing,
      .given { telemetry := { serviceName := some "shop".toList, propagators := [.b3] } }⟩
    let process := after (fun _ => true) {} [missing, shop, missing]
    let x : Exchange := ⟨⟨"GET".toList, .origin "/users/7".toList none, .v11, [], [], none, none⟩,
      [(.router, "/users/:id".toList), (.middleware, "/users".toList)], .response ⟨200, [], []⟩⟩
    ∃ g, (shop.start (fun _ => true) (after (fun _ => true) {} [missing])).result = .ok g ∧
      (g.tracedLayer.spans process x).map (fun (scope, span) => (scope, span.name))
        = [(Span.scope, "GET /users/:id".toList)] ∧
      g.tracedLayer.spans process x = process.tracedLayer.spans process x := by
  intro missing shop process x
  obtain ⟨g, hg⟩ : ∃ g, (shop.start (fun _ => true) (after (fun _ => true) {} [missing])).result
      = .ok g := ⟨_, rfl⟩
  obtain ⟨-, -, hsame, -⟩ := default_layer_standard (fun _ => true) {} [missing] shop [missing]
    rfl hg rfl rfl
  have hspans : g.tracedLayer.spans process x = process.tracedLayer.spans process x := (hsame x).2
  refine ⟨g, hg, ?_, hspans⟩
  rw [hspans]
  decide

end Attempt

end Startup

end ServerTelemetry
