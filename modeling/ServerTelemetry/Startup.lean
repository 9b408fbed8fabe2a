import ServerTelemetry.Configuration.Environment
import ServerTelemetry.Configuration.File
import ServerTelemetry.Log.Filter
import ServerTelemetry.Wiring

/-!
# Starting telemetry

A process has three things that telemetry is installed into: the log, the propagation formats and
the provider of spans. Starting either installs what a configuration asks for or fails and leaves
all three as they were; it fails if a log is installed already. A configuration that turns
telemetry off installs the log alone.

Events are printed if a log is installed at the time and its filter lets them through.
-/

namespace ServerTelemetry

open Text

/-- The log of a process. -/
structure InstalledLog where
  filter : LogFilter
  format : LogFormat
  deriving DecidableEq, Repr

/-- What is installed in a process; at first nothing is. -/
structure Installation where
  log : Option InstalledLog := none
  propagators : List Propagator := []
  provider : Option Provider := none
  deriving DecidableEq, Repr

/-- A printed event. -/
structure PrintedEvent where
  format : LogFormat
  event : LogEvent
  deriving DecidableEq, Repr

namespace Installation

/-- What is printed of events. -/
def print (p : Installation) (events : List LogEvent) : List PrintedEvent :=
  match p.log with
  | some log => (events.filter log.filter.allows).map fun e => ⟨log.format, e⟩
  | none => []

/-- Installs a log, unless one is installed already. -/
def installLog? (p : Installation) (log : InstalledLog) : Option Installation :=
  if p.log.isSome then none else some { p with log := some log }

/-- Installs the formats and the provider that have been set up, if telemetry is on. -/
def installTelemetry (p : Installation) (w : Wiring) : Installation :=
  if w.enabled then { p with propagators := w.propagators, provider := w.provider } else p

theorem installLog?_of_none {p : Installation} (h : p.log = none) (log : InstalledLog) :
    p.installLog? log = some { p with log := some log } := by
  rw [installLog?, h]
  rfl

theorem installLog?_of_some {p : Installation} {other : InstalledLog} (h : p.log = some other)
    (log : InstalledLog) : p.installLog? log = none := by
  rw [installLog?, h]
  rfl

end Installation

/-- Why telemetry cannot be started. -/
inductive StartError where
  /-- The configuration cannot be had or cannot be set up. -/
  | configuration (error : ConfigurationError)
  | filter (error : FilterError)
  | installed
  deriving DecidableEq, Repr

/-- What the caller of a start keeps. -/
structure Guard where
  /-- Where spans go; nowhere if telemetry is off. -/
  provider : Option Provider
  /-- The layer around the handlers. -/
  layer : Layer
  deriving DecidableEq, Repr

/-- What comes of a start. -/
structure Start where
  process : Installation
  printed : List PrintedEvent
  /-- What the caller keeps, or the error. -/
  result : Except StartError Guard

/-- Whether telemetry was started. -/
def Start.succeeded (s : Start) : Bool :=
  s.result.isOk

namespace Startup

/-- The variable with the log filter. -/
def filterVariable : Text :=
  "RUST_LOG".toList

/-- The log filter: the environment's unless that is blank, else the configured one. -/
def filterText (vars : Text → Option Text) (l : LoggingSettings) : Text :=
  ((vars filterVariable).filter (! ·.blank)).getD l.level

/-- An event of starting. -/
def event (message : String) (fields : List (Text × LogValue)) : LogEvent :=
  ⟨.info, "webtrace_starter".toList, message.toList, fields⟩

/-- Telemetry is on. -/
def startedEvent (t : TelemetrySettings) : LogEvent :=
  event "telemetry initialized" [("service.name".toList, .quoted (t.serviceName.getD []))]

/-- Telemetry is off. -/
def disabledEvent : LogEvent :=
  event "telemetry disabled, only logging is installed" []

/-- Starts telemetry as configured, in a process with some variables. Nothing is installed before all
of it is set up, and the log comes first as it is the one that may be refused. -/
def start (features : Exporter → Bool) (vars : Text → Option Text) (p : Installation)
    (c : Configuration) : Start :=
  let (events, wiring) := Wiring.ofConfiguration features vars c
  let printed := p.print events
  match wiring with
  | .error error => ⟨p, printed, .error (.configuration error)⟩
  | .ok w =>
    match LogFilter.read (filterText vars c.logging) with
    | .error error => ⟨p, printed, .error (.filter error)⟩
    | .ok filter =>
      match p.installLog? ⟨filter, c.logging.format⟩ with
      | none => ⟨p, printed, .error .installed⟩
      | some logging =>
        let after := logging.installTelemetry w
        let event := if w.enabled then startedEvent c.telemetry else disabledEvent
        ⟨after, printed ++ after.print [event], .ok ⟨w.provider, w.layer⟩⟩

/-- The configuration of a process: the one in the file at a path or the default one, with what the
environment overrides. -/
def configuration (vars : Text → Option Text) (read : FileReader) (path : Option Text) :
    Except ConfigurationError Configuration := do
  let base ← match path with
    | some path => Configuration.ofFile read path
    | none => .ok {}
  base.withEnvironment fun v => vars v.name

/-- Starts telemetry as a file and the environment say. -/
def startFrom (features : Exporter → Bool) (vars : Text → Option Text) (p : Installation)
    (read : FileReader) (path : Option Text) : Start :=
  match configuration vars read path with
  | .ok c => start features vars p c
  | .error error => ⟨p, [], .error (.configuration error)⟩

/-- What to start telemetry with. -/
inductive Source where
  /-- A configuration as it is, whatever the environment says of it. -/
  | given (c : Configuration)
  /-- The file at a path or the default configuration, and the environment. -/
  | found (path : Option Text)

/-- An attempt to start telemetry, with the variables and the files there are at the time. -/
structure Attempt where
  vars : Text → Option Text
  read : FileReader
  source : Source

namespace Attempt

/-- Starts telemetry in a process. -/
def start (features : Exporter → Bool) (a : Attempt) (p : Installation) : Start :=
  match a.source with
  | .given c => Startup.start features a.vars p c
  | .found path => startFrom features a.vars p a.read path

/-- What comes of attempts in one process, one after another. -/
def run (features : Exporter → Bool) (p : Installation) : List Attempt → List Start
  | [] => []
  | a :: as => a.start features p :: run features (a.start features p).process as

/-- What is installed in the process after attempts. -/
def after (features : Exporter → Bool) (p : Installation) (as : List Attempt) : Installation :=
  as.foldl (fun p a => (a.start features p).process) p

end Attempt

end Startup

/-! ## Handling requests -/

/-- A request with what becomes of it. -/
structure Exchange where
  request : Http.Request
  /-- The routes offered while it is handled. -/
  offers : List (RouteSource × Text)
  outcome : Outcome

/-- The steps of an exchange. -/
def Exchange.steps (x : Exchange) : List Step :=
  .call [] x.request :: x.offers.map (fun (source, route) => .offer [] source route)
    ++ [.settle [] x.outcome, .poll []]

/-- A layer with what it opens its spans with. -/
structure TracedLayer where
  layer : Layer
  /-- What its spans are reported under. -/
  scope : Scope := Span.scope
  /-- Where its spans go, and what is recorded of them. -/
  provider : Option Provider
  deriving DecidableEq, Repr

namespace TracedLayer

/-- A handler behind the layer, in a process. -/
def service (l : TracedLayer) (p : Installation) : Service where
  propagators := p.propagators
  connection := none
  layers := [l.layer]
  recording := (l.provider.map (·.recording)).getD {}

/-- What is observed of an exchange that goes through the layer, in a process. -/
def exchange (l : TracedLayer) (p : Installation) (x : Exchange) : List Observation :=
  Session.run (l.service p) [] x.steps

/-- The spans of an exchange as they are reported. -/
def spans (l : TracedLayer) (p : Installation) (x : Exchange) : List (Scope × Span) :=
  (l.exchange p x).flatMap fun o => o.spans.map fun span => (l.scope, span)

end TracedLayer

/-- The layer the caller keeps, which opens its spans with the caller's provider. -/
def Guard.tracedLayer (g : Guard) : TracedLayer where
  layer := g.layer
  provider := g.provider

namespace Installation

/-- The layer that uses what the process has installed and records what is standard. -/
def standardLayer : Layer where
  extractor := .standard
  enabled := true

/-- The standard layer, which opens its spans with the provider that is installed. -/
def tracedLayer (p : Installation) : TracedLayer where
  layer := standardLayer
  provider := p.provider

/-- The spans that are printed, out of those reported. -/
def printSpans (p : Installation) (spans : List Span) : List Span :=
  if p.provider.any (·.printing) then spans else []

/-- The resource that is printed before the first of some spans. -/
def printResource (p : Installation) (spans : List Span) : Labels :=
  match p.provider with
  | some provider => if provider.printing && ! spans.isEmpty then provider.resource else .empty
  | none => .empty

end Installation

end ServerTelemetry
