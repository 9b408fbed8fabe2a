import ServerTelemetry.Configuration.Environment

/-!
# The settings that variables govern

Every variable governs one setting (`Configuration.setting`), and only the labels of the resource
and the log are governed by none (`Configuration.ungoverned`). A configuration is its settings
(`ext_setting`), and each can be put in without a change to another one (`setting_put_self`,
`setting_put_of_ne`).
-/

namespace ServerTelemetry

/-- What a variable sets; of exporters, whether spans are printed and whether they are sent. -/
def Variable.Value : Variable → Type
  | .disabled | .serverEnabled | .preferForwardedScheme => Bool
  | .serviceName | .endpoint => Option Text
  | .propagators => List Propagator
  | .exporters => Bool × Bool
  | .protocol => Protocol
  | .timeout => Duration
  | .requestHeaders | .responseHeaders | .knownMethods => List Text

namespace Configuration

/-- The setting that a variable governs. -/
def setting (c : Configuration) : (v : Variable) → v.Value
  | .disabled => c.telemetry.enabled
  | .serviceName => c.telemetry.serviceName
  | .propagators => c.telemetry.propagators
  | .exporters => (c.telemetry.exporters.logging, c.telemetry.exporters.otlp.enabled)
  | .endpoint => c.telemetry.exporters.otlp.endpoint
  | .protocol => c.telemetry.exporters.otlp.protocol
  | .timeout => c.telemetry.exporters.otlp.timeout
  | .serverEnabled => c.server.enabled
  | .requestHeaders => c.server.recorded.capturedRequestHeaders
  | .responseHeaders => c.server.recorded.capturedResponseHeaders
  | .knownMethods => c.server.recorded.knownMethods
  | .preferForwardedScheme => c.server.recorded.preferForwardedScheme

/-- The settings that no variable governs. -/
def ungoverned (c : Configuration) : Labels × LoggingSettings :=
  (c.telemetry.resource, c.logging)

/-- The configuration with another value of one setting. -/
def put (c : Configuration) : (v : Variable) → v.Value → Configuration
  | .disabled, enabled => { c with telemetry := { c.telemetry with enabled := enabled } }
  | .serviceName, name => { c with telemetry := { c.telemetry with serviceName := name } }
  | .propagators, propagators =>
    { c with telemetry := { c.telemetry with propagators := propagators } }
  | .exporters, (logging, otlp) =>
    let e := c.telemetry.exporters
    { c with telemetry := { c.telemetry with exporters :=
      { e with logging := logging, otlp := { e.otlp with enabled := otlp } } } }
  | .endpoint, endpoint => c.withOtlp fun o => { o with endpoint := endpoint }
  | .protocol, protocol => c.withOtlp fun o => { o with protocol := protocol }
  | .timeout, timeout => c.withOtlp fun o => { o with timeout := timeout }
  | .serverEnabled, enabled => { c with server := { c.server with enabled := enabled } }
  | .requestHeaders, names => c.withRecorded fun o => { o with capturedRequestHeaders := names }
  | .responseHeaders, names => c.withRecorded fun o => { o with capturedResponseHeaders := names }
  | .knownMethods, methods => c.withRecorded fun o => { o with knownMethods := methods }
  | .preferForwardedScheme, prefer =>
    c.withRecorded fun o => { o with preferForwardedScheme := prefer }

/-- A configuration is its settings. -/
theorem ext_setting {c d : Configuration} (h : ∀ v, c.setting v = d.setting v)
    (hrest : c.ungoverned = d.ungoverned) : c = d := by
  obtain ⟨⟨enabled, name, resource, propagators, logs, ⟨on, endpoint, protocol, timeout⟩⟩,
    ⟨server, requests, responses, methods, prefer⟩, logging⟩ := c
  obtain ⟨⟨enabled', name', resource', propagators', logs', ⟨on', endpoint', protocol', timeout'⟩⟩,
    ⟨server', requests', responses', methods', prefer'⟩, logging'⟩ := d
  obtain ⟨rfl, rfl⟩ : resource = resource' ∧ logging = logging' := Prod.mk.inj hrest
  obtain ⟨rfl, rfl⟩ : logs = logs' ∧ on = on' := Prod.mk.inj (h .exporters)
  obtain rfl : enabled = enabled' := h .disabled
  obtain rfl : name = name' := h .serviceName
  obtain rfl : propagators = propagators' := h .propagators
  obtain rfl : endpoint = endpoint' := h .endpoint
  obtain rfl : protocol = protocol' := h .protocol
  obtain rfl : timeout = timeout' := h .timeout
  obtain rfl : server = server' := h .serverEnabled
  obtain rfl : requests = requests' := h .requestHeaders
  obtain rfl : responses = responses' := h .responseHeaders
  obtain rfl : methods = methods' := h .knownMethods
  obtain rfl : prefer = prefer' := h .preferForwardedScheme
  rfl

@[simp] theorem setting_put_self (c : Configuration) (v : Variable) (x : v.Value) :
    (c.put v x).setting v = x := by
  cases v <;> rfl

theorem setting_put_of_ne (c : Configuration) {v u : Variable} (h : u ≠ v) (x : v.Value) :
    (c.put v x).setting u = c.setting u := by
  cases v <;> cases u <;> first | rfl | exact absurd rfl h

@[simp] theorem ungoverned_put (c : Configuration) (v : Variable) (x : v.Value) :
    (c.put v x).ungoverned = c.ungoverned := by
  cases v <;> rfl

end Configuration

end ServerTelemetry
