import Mathlib
import ServerTelemetry.Configuration.Document
import ServerTelemetry.Proofs.Document.Reorder

/-!
# Documents as overlays

A document need not give all settings. What it does give is an `Overlay`: a value for some of the
settings and nothing for the others. The configuration it stands for is the default with exactly
these values put in (`Overlay.Of.decode`), in whichever order the keys of its mappings are written
(`Part.decode_orderless`). The sections of a document are a tree (`Part.Holds`), and those of a document
that is read have no other keys than their fields, each once (`Part.proper_of_decode`).

A value is fit for a setting if the decoder of the setting reads it.
-/

namespace ServerTelemetry

namespace Document

open Yaml

/-- What a mapping gives under a name, if it gives anything. -/
def Given {α : Type} (named : Named) (entries : List (Node × Node)) (name : String)
    (stands : Node → α → Prop) : Option α → Prop
  | none => ∀ e ∈ entries, e.1.text? named ≠ some name.toList
  | some x => ∃ key value, (key, value) ∈ entries ∧ key.text? named = some name.toList ∧
      stands value x

/-- What a mapping gives under the name of a section: what the entries of another mapping give, or
nothing. -/
def GivenWithin {α : Type} (named : Named) (entries : List (Node × Node)) (name : String)
    (give : List (Node × Node) → α → Prop) (nothing x : α) : Prop :=
  ∃ given, Given named entries name
      (fun node y => ∃ inner, node.target named = .mapping inner ∧ give inner y) given ∧
    given.getD nothing = x

/-- What a node stands for to a decoder, wherever it is. -/
def Decoder.Stands {α : Type} (decoder : Decoder α) (named : Named) (node : Node) (x : α) : Prop :=
  ∀ place, decoder named place node = .ok x

theorem Given.effect {σ α β : Type} {named : Named} {place : Place}
    {entries : List (Node × Node)} {name : String} {stands : Node → α → Prop} {given : Option α}
    (h : Given named entries name stands given) {decoder : Decoder β} {value : α → β}
    (hread : ∀ {node x}, stands node x → decoder.Stands named node (value x))
    {put : β → σ → σ} :
    (Field.of name decoder put).Effect named place entries (given.elim id (put ∘ value)) := by
  cases given with
  | none => exact .absent h
  | some x =>
    obtain ⟨key, node, hmem, hkey, hnode⟩ := h
    exact .given hmem hkey (Field.sets_of (hread hnode _))

theorem GivenWithin.effect {σ α β : Type} {named : Named} {place : Place}
    {entries : List (Node × Node)} {name : String} {give : List (Node × Node) → α → Prop}
    {nothing x : α} (h : GivenWithin named entries name give nothing x) {decoder : Decoder β}
    {value : α → β}
    (hread : ∀ {inner y}, give inner y → ∀ {node}, node.target named = .mapping inner →
      decoder.Stands named node (value y))
    {put : β → σ → σ} :
    ∃ given : Option α, (Field.of name decoder put).Effect named place entries
      (given.elim id (put ∘ value)) ∧ given.getD nothing = x := by
  obtain ⟨given, hgiven, heq⟩ := h
  refine ⟨given, hgiven.effect ?_, heq⟩
  rintro node y ⟨inner, hnode, hinner⟩
  exact hread hinner hnode

end Document

namespace Configuration

open Document Document.Decoder Yaml

/-! ## Overlays -/

/-- What is given of how spans are sent to a collector. -/
structure OtlpOverlay where
  enabled : Option Bool := none
  endpoint : Option (Option Text) := none
  protocol : Option Protocol := none
  timeout : Option Duration := none

/-- What is given of the exporters. -/
structure ExporterOverlay where
  logging : Option Bool := none
  otlp : OtlpOverlay := {}

/-- What is given of telemetry. -/
structure TelemetryOverlay where
  enabled : Option Bool := none
  serviceName : Option (Option Text) := none
  resource : Option Labels := none
  propagators : Option (List Propagator) := none
  exporters : ExporterOverlay := {}

/-- What is given of the spans of handled requests. -/
structure ServerOverlay where
  enabled : Option Bool := none
  capturedRequestHeaders : Option (List Text) := none
  capturedResponseHeaders : Option (List Text) := none
  preferForwardedScheme : Option Bool := none
  knownMethods : Option (List Text) := none

/-- What is given of the log. -/
structure LoggingOverlay where
  level : Option Text := none
  format : Option LogFormat := none

/-- What a document gives of a configuration. -/
structure Overlay where
  telemetry : TelemetryOverlay := {}
  server : ServerOverlay := {}
  logging : LoggingOverlay := {}

/-! Each overlay replaces what it gives and keeps the rest. -/

def OtlpOverlay.on (given : OtlpOverlay) (o : OtlpSettings) : OtlpSettings where
  enabled := given.enabled.getD o.enabled
  endpoint := given.endpoint.getD o.endpoint
  protocol := given.protocol.getD o.protocol
  timeout := given.timeout.getD o.timeout

def ExporterOverlay.on (given : ExporterOverlay) (e : ExporterSettings) : ExporterSettings where
  logging := given.logging.getD e.logging
  otlp := given.otlp.on e.otlp

def TelemetryOverlay.on (given : TelemetryOverlay) (t : TelemetrySettings) :
    TelemetrySettings where
  enabled := given.enabled.getD t.enabled
  serviceName := given.serviceName.getD t.serviceName
  resource := given.resource.getD t.resource
  propagators := given.propagators.getD t.propagators
  exporters := given.exporters.on t.exporters

def ServerOverlay.on (given : ServerOverlay) (s : ServerSettings) : ServerSettings where
  enabled := given.enabled.getD s.enabled
  recorded := {
    capturedRequestHeaders :=
      given.capturedRequestHeaders.getD s.recorded.capturedRequestHeaders
    capturedResponseHeaders :=
      given.capturedResponseHeaders.getD s.recorded.capturedResponseHeaders
    preferForwardedScheme :=
      given.preferForwardedScheme.getD s.recorded.preferForwardedScheme
    knownMethods := given.knownMethods.getD s.recorded.knownMethods }

def LoggingOverlay.on (given : LoggingOverlay) (l : LoggingSettings) : LoggingSettings where
  level := given.level.getD l.level
  format := given.format.getD l.format

/-- The configuration with exactly the given settings replaced. -/
def Overlay.on (given : Overlay) (c : Configuration) : Configuration where
  telemetry := given.telemetry.on c.telemetry
  server := given.server.on c.server
  logging := given.logging.on c.logging

/-! ## Sections of documents -/

/-- The sections of a document. -/
inductive Part where
  | root
  | telemetry
  | exporters
  | loggingExporter
  | otlp
  | instrumentation
  | http
  | server
  | logging

namespace Part

/-- The keys that lead to the section. -/
def path : Part → List String
  | root => []
  | telemetry => ["telemetry"]
  | exporters => ["telemetry", "exporters"]
  | loggingExporter => ["telemetry", "exporters", "logging"]
  | otlp => ["telemetry", "exporters", "otlp"]
  | instrumentation => ["instrumentation"]
  | http => ["instrumentation", "http"]
  | server => ["instrumentation", "http", "server"]
  | logging => ["logging"]

/-- The names of its fields. -/
def fields : Part → List String
  | root => ["telemetry", "instrumentation", "logging"]
  | telemetry => ["enabled", "service_name", "resource", "propagators", "exporters"]
  | exporters => ["logging", "otlp"]
  | loggingExporter => ["enabled"]
  | otlp => ["enabled", "endpoint", "protocol", "timeout"]
  | instrumentation => ["http"]
  | http => ["server"]
  | server => ["enabled", "captured_request_headers", "captured_response_headers",
      "prefer_forwarded_url_scheme", "known_methods"]
  | logging => ["level", "format"]

/-- The keys of the section are names of its fields, each once. -/
abbrev Proper (part : Part) (named : Named) (entries : List (Node × Node)) : Prop :=
  ProperKeys named (part.fields.map String.toList) entries

/-- What the section sets. -/
abbrev Settings : Part → Type
  | root => Configuration
  | telemetry => TelemetrySettings
  | exporters => ExporterSettings
  | loggingExporter => Bool
  | otlp => OtlpSettings
  | instrumentation => ServerSettings
  | http => ServerSettings
  | server => ServerSettings
  | logging => LoggingSettings

/-- How the section is read. -/
def asSection : (part : Part) → Section part.Settings
  | root => rootSection
  | telemetry => telemetrySection
  | exporters => exportersSection
  | loggingExporter => loggingExporterSection
  | otlp => otlpSection
  | instrumentation => instrumentationSection
  | http => httpSection
  | server => serverSection
  | logging => loggingSection

/-- What is set where the section is left out. -/
def defaults : (part : Part) → part.Settings
  | root => {}
  | telemetry => {}
  | exporters => {}
  | loggingExporter => false
  | otlp => {}
  | instrumentation => {}
  | http => {}
  | server => {}
  | logging => {}

/-- Reads the section on top of its defaults. -/
def decode (part : Part) : Decoder part.Settings :=
  part.asSection.decode part.defaults

/-- The keys that lead to the section. -/
abbrev keys (part : Part) : List Text :=
  part.path.map String.toList

/-- The names of the fields of the section. -/
abbrev names (part : Part) : List Text :=
  part.fields.map String.toList

/-- A section has another one inside it, under a key. -/
inductive Holds : Part → String → Part → Prop
  | telemetry : Holds root "telemetry" telemetry
  | exporters : Holds telemetry "exporters" exporters
  | loggingExporter : Holds exporters "logging" loggingExporter
  | otlp : Holds exporters "otlp" otlp
  | instrumentation : Holds root "instrumentation" instrumentation
  | http : Holds instrumentation "http" http
  | server : Holds http "server" server
  | logging : Holds root "logging" logging

end Part

/-! ## What entries give -/

variable (named : Named)

/-- The entries of a mapping give these settings of how spans are sent to a collector. -/
structure OtlpOverlay.Of (entries : List (Node × Node)) (given : OtlpOverlay) : Prop where
  proper : Part.otlp.Proper named entries
  enabled : Given named entries "enabled" (flag.Stands named) given.enabled
  endpoint : Given named entries "endpoint" (text?.Stands named) given.endpoint
  protocol : Given named entries "protocol"
    ((word "Protocol".toList protocolWords).Stands named) given.protocol
  timeout : Given named entries "timeout" (duration.Stands named) given.timeout

/-- The entries of a mapping say this about the exporter that prints spans. -/
structure LoggingExporterGiven (entries : List (Node × Node)) (given : Option Bool) : Prop where
  proper : Part.loggingExporter.Proper named entries
  enabled : Given named entries "enabled" (flag.Stands named) given

/-- The entries of a mapping give these settings of the exporters. -/
structure ExporterOverlay.Of (entries : List (Node × Node)) (given : ExporterOverlay) : Prop where
  proper : Part.exporters.Proper named entries
  logging : GivenWithin named entries "logging" (LoggingExporterGiven named) none given.logging
  otlp : GivenWithin named entries "otlp" (OtlpOverlay.Of named) {} given.otlp

/-- The entries of a mapping give these settings of telemetry. -/
structure TelemetryOverlay.Of (entries : List (Node × Node)) (given : TelemetryOverlay) :
    Prop where
  proper : Part.telemetry.Proper named entries
  enabled : Given named entries "enabled" (flag.Stands named) given.enabled
  serviceName : Given named entries "service_name" (text?.Stands named) given.serviceName
  resource : Given named entries "resource" (labels.Stands named) given.resource
  propagators : Given named entries "propagators"
    ((list (word "Propagator".toList propagatorWords)).Stands named) given.propagators
  exporters : GivenWithin named entries "exporters" (ExporterOverlay.Of named) {} given.exporters

/-- The entries of a mapping give these settings of the spans of handled requests. -/
structure ServerOverlay.Of (entries : List (Node × Node)) (given : ServerOverlay) : Prop where
  proper : Part.server.Proper named entries
  enabled : Given named entries "enabled" (flag.Stands named) given.enabled
  capturedRequestHeaders : Given named entries "captured_request_headers"
    ((list text).Stands named) given.capturedRequestHeaders
  capturedResponseHeaders : Given named entries "captured_response_headers"
    ((list text).Stands named) given.capturedResponseHeaders
  preferForwardedScheme : Given named entries "prefer_forwarded_url_scheme" (flag.Stands named)
    given.preferForwardedScheme
  knownMethods : Given named entries "known_methods" ((list text).Stands named) given.knownMethods

/-- The entries of a mapping give these settings under the key for servers. -/
structure ServerOverlay.InHttp (entries : List (Node × Node)) (given : ServerOverlay) : Prop where
  proper : Part.http.Proper named entries
  server : GivenWithin named entries "server" (ServerOverlay.Of named) {} given

/-- The entries of a mapping give these settings under the key for HTTP. -/
structure ServerOverlay.InInstrumentation (entries : List (Node × Node)) (given : ServerOverlay) :
    Prop where
  proper : Part.instrumentation.Proper named entries
  http : GivenWithin named entries "http" (ServerOverlay.InHttp named) {} given

/-- The entries of a mapping give these settings of the log. -/
structure LoggingOverlay.Of (entries : List (Node × Node)) (given : LoggingOverlay) : Prop where
  proper : Part.logging.Proper named entries
  level : Given named entries "level" (text.Stands named) given.level
  format : Given named entries "format"
    ((word "LogFormat".toList logFormatWords).Stands named) given.format

/-- The entries of the root of a document give these settings, and nothing else. -/
structure Overlay.Of (entries : List (Node × Node)) (given : Overlay) : Prop where
  proper : Part.root.Proper named entries
  telemetry : GivenWithin named entries "telemetry" (TelemetryOverlay.Of named) {} given.telemetry
  instrumentation : GivenWithin named entries "instrumentation"
    (ServerOverlay.InInstrumentation named) {} given.server
  logging : GivenWithin named entries "logging" (LoggingOverlay.Of named) {} given.logging

variable {named}

/-! ## What the sections read -/

namespace Part

variable {p q : Part} {name : String}

theorem names_asSection (part : Part) : part.asSection.names = part.names := by
  cases part <;> rfl

/-- What fields of a section read: values to which no order of keys matters, and sections that it
holds. -/
inductive Reads (part : Part) : List (Document.Field part.Settings) → Prop
  | nil : Reads part []
  | value {α : Type} {name : String} {decoder : Decoder α} {put : α → part.Settings → part.Settings}
      {fields : List (Document.Field part.Settings)} (h : decoder.Orderless)
      (rest : Reads part fields) : Reads part (.of name decoder put :: fields)
  | within {name : String} {q : Part} {put : q.Settings → part.Settings → part.Settings}
      {fields : List (Document.Field part.Settings)} (h : part.Holds name q)
      (rest : Reads part fields) : Reads part (.of name q.decode put :: fields)

theorem reads_fields (part : Part) : part.Reads part.asSection.fields := by
  cases part with
  | root => exact .within .telemetry <| .within .instrumentation <| .within .logging .nil
  | telemetry =>
    exact .value flag_orderless <| .value text?_orderless <| .value labels_orderless <|
      .value (list_orderless word_orderless) <| .within .exporters .nil
  | exporters => exact .within .loggingExporter <| .within .otlp .nil
  | loggingExporter => exact .value flag_orderless .nil
  | otlp =>
    exact .value flag_orderless <| .value text?_orderless <| .value word_orderless <|
      .value duration_orderless .nil
  | instrumentation => exact .within .http .nil
  | http => exact .within .server .nil
  | server =>
    have htexts : (list text).Orderless := list_orderless text_orderless
    exact .value flag_orderless <| .value htexts <| .value htexts <| .value flag_orderless <|
      .value htexts .nil
  | logging => exact .value text_orderless <| .value word_orderless .nil

variable {fields : List (Document.Field p.Settings)}

theorem Reads.uniform (h : p.Reads fields) : ∀ f ∈ fields, f.Uniform := by
  induction h with
  | nil => exact fun f hf => absurd hf List.not_mem_nil
  | value _ _ ih | within _ _ ih => exact List.forall_mem_cons.2 ⟨Field.uniform_of, ih⟩

theorem Reads.orderless (h : p.Reads fields)
    (hheld : ∀ {name q}, p.Holds name q → q.decode.Orderless) : ∀ f ∈ fields, f.Orderless := by
  induction h with
  | nil => exact fun f hf => absurd hf List.not_mem_nil
  | value h _ ih => exact List.forall_mem_cons.2 ⟨Field.orderless_of h, ih⟩
  | within h _ ih => exact List.forall_mem_cons.2 ⟨Field.orderless_of (hheld h), ih⟩

theorem independent_fields (part : Part) : part.asSection.fields.Pairwise Field.Independent := by
  -- Of any two fields of one section each puts its value into a setting of its own.
  cases part <;>
    repeat' first
      | exact .nil
      | refine .cons ?_ ?_
      | refine List.forall_mem_cons.2 ⟨Field.independent_of ?_, ?_⟩
      | exact fun _ _ _ => rfl
      | exact fun _ h => absurd h List.not_mem_nil

/-- **The fields of a section have nothing to do with each other.** -/
theorem regular (part : Part) : part.asSection.Regular where
  distinct := by
    rw [names_asSection]
    cases part <;> decide
  uniform := part.reads_fields.uniform
  independent := part.independent_fields

/-- What holds of every section if it does of all that it holds, holds of every section. -/
theorem rec_held {motive : Part → Prop}
    (hheld : ∀ p, (∀ {name q}, Holds p name q → motive q) → motive p) (part : Part) :
    motive part := by
  have hleaf : ∀ p, (∀ name q, ¬ Holds p name q) → motive p := fun p hp =>
    hheld p fun hq => absurd hq (hp _ _)
  have hloggingExporter := hleaf loggingExporter nofun
  have hotlp := hleaf otlp nofun
  have hserver := hleaf server nofun
  have hlogging := hleaf logging nofun
  have hexporters := hheld exporters fun hq => by cases hq <;> assumption
  have htelemetry := hheld telemetry fun hq => by cases hq; assumption
  have hhttp := hheld http fun hq => by cases hq; assumption
  have hinstrumentation := hheld instrumentation fun hq => by cases hq; assumption
  cases part with
  | root => exact hheld root fun hq => by cases hq <;> assumption
  | _ => assumption

/-- **No order of keys matters to a section**, at whatever depth they are. -/
theorem orderless (part : Part) : ∀ f ∈ part.asSection.fields, f.Orderless := by
  induction part using rec_held with
  | hheld p ih =>
    exact p.reads_fields.orderless fun hq => Section.orderless (regular _) (ih hq) _

theorem decode_orderless (part : Part) : part.decode.Orderless :=
  Section.orderless part.regular part.orderless part.defaults

/-! ## Sections inside sections -/

/-- The value of the key is read as the section that it holds. -/
theorem Holds.field? (h : p.Holds name q) :
    ∃ put, p.asSection.field? name.toList = some (.of name q.decode put) := by
  cases h <;> exact ⟨_, rfl⟩

theorem Holds.keys_eq (h : p.Holds name q) : q.keys = p.keys ++ [name.toList] := by
  cases h <;> rfl

/-- What holds of the root, and of all that a section holds if it does of the section, holds of every
section. -/
theorem rec_holds {motive : Part → Prop} (hroot : motive root)
    (hholds : ∀ {p name q}, Holds p name q → motive p → motive q) (part : Part) : motive part := by
  have htelemetry := hholds .telemetry hroot
  have hexporters := hholds .exporters htelemetry
  have hinstrumentation := hholds .instrumentation hroot
  have hhttp := hholds .http hinstrumentation
  cases part with
  | root => exact hroot
  | telemetry => exact htelemetry
  | exporters => exact hexporters
  | loggingExporter => exact hholds .loggingExporter hexporters
  | otlp => exact hholds .otlp hexporters
  | instrumentation => exact hinstrumentation
  | http => exact hhttp
  | server => exact hholds .server hhttp
  | logging => exact hholds .logging hroot

/-- Every section that keys lead to is read if the document is. -/
theorem accepts {root : Node} (h : (rootSection.decode {}).Accepts named root) (part : Part)
    {node : Node} (hpath : Reaches named part.keys root node) : part.decode.Accepts named node := by
  induction part using rec_holds generalizing node with
  | hroot =>
    cases hpath
    exact h
  | @hholds p name q hq ih =>
    rw [hq.keys_eq, reaches_append_iff] at hpath
    obtain ⟨middle, hmiddle, hnode⟩ := hpath
    obtain ⟨put, hfield⟩ := hq.field?
    obtain ⟨value, hvalue, hend⟩ :=
      Section.accepts_of_reaches hfield p.regular.uniform (ih hmiddle) hnode
    cases hend
    exact hvalue

theorem proper_of_decode {root : Node} {c : Configuration}
    (h : Configuration.decode named root = .ok c) (part : Part) {node : Node}
    (hpath : Reaches named part.keys root node) {entries : List (Node × Node)}
    (hnode : node.target named = .mapping entries) : part.Proper named entries := by
  have hproper := Section.proper_of_accepts (part.accepts ⟨_, c, h⟩ hpath) hnode
  rwa [names_asSection] at hproper

end Part

/-! ## Sections one field at a time -/

theorem LoggingExporterGiven.decode {entries : List (Node × Node)} {given : Option Bool}
    (h : LoggingExporterGiven named entries given) {node : Node}
    (hnode : node.target named = .mapping entries) :
    Part.loggingExporter.decode.Stands named node (given.getD false) := by
  intro place
  rw [Part.decode, Section.decode_of_effects Part.loggingExporter.regular hnode
    (.cons (h.enabled.effect id) .nil) h.proper]
  cases given <;> rfl

theorem OtlpOverlay.Of.decode {entries : List (Node × Node)} {given : OtlpOverlay}
    (h : given.Of named entries) {node : Node} (hnode : node.target named = .mapping entries) :
    Part.otlp.decode.Stands named node (given.on {}) := by
  intro place
  rw [Part.decode, Section.decode_of_effects Part.otlp.regular hnode
    (.cons (h.enabled.effect id) <| .cons (h.endpoint.effect id) <|
      .cons (h.protocol.effect id) <| .cons (h.timeout.effect id) .nil) h.proper]
  obtain ⟨_ | _, _ | _, _ | _, _ | _⟩ := given <;> rfl

theorem ExporterOverlay.Of.decode {entries : List (Node × Node)} {given : ExporterOverlay}
    (h : given.Of named entries) {node : Node} (hnode : node.target named = .mapping entries) :
    Part.exporters.decode.Stands named node (given.on {}) := by
  intro place
  obtain ⟨logging, hlogging, heq⟩ := h.logging.effect LoggingExporterGiven.decode
  obtain ⟨otlp, hotlp, heq'⟩ := h.otlp.effect OtlpOverlay.Of.decode
  rw [Part.decode, Section.decode_of_effects Part.exporters.regular hnode
    (.cons hlogging <| .cons hotlp .nil) h.proper]
  obtain ⟨_, _⟩ := given
  subst heq heq'
  cases logging <;> cases otlp <;> rfl

theorem TelemetryOverlay.Of.decode {entries : List (Node × Node)} {given : TelemetryOverlay}
    (h : given.Of named entries) {node : Node} (hnode : node.target named = .mapping entries) :
    Part.telemetry.decode.Stands named node (given.on {}) := by
  intro place
  obtain ⟨exporters, hexporters, heq⟩ := h.exporters.effect ExporterOverlay.Of.decode
  rw [Part.decode, Section.decode_of_effects Part.telemetry.regular hnode
    (.cons (h.enabled.effect id) <| .cons (h.serviceName.effect id) <|
      .cons (h.resource.effect id) <| .cons (h.propagators.effect id) <|
      .cons hexporters .nil) h.proper]
  obtain ⟨_ | _, _ | _, _ | _, _ | _, _⟩ := given <;> subst heq <;> cases exporters <;> rfl

theorem ServerOverlay.Of.decode {entries : List (Node × Node)} {given : ServerOverlay}
    (h : given.Of named entries) {node : Node} (hnode : node.target named = .mapping entries) :
    Part.server.decode.Stands named node (given.on {}) := by
  intro place
  rw [Part.decode, Section.decode_of_effects Part.server.regular hnode
    (.cons (h.enabled.effect id) <| .cons (h.capturedRequestHeaders.effect id) <|
      .cons (h.capturedResponseHeaders.effect id) <|
      .cons (h.preferForwardedScheme.effect id) <| .cons (h.knownMethods.effect id) .nil)
    h.proper]
  obtain ⟨_ | _, _ | _, _ | _, _ | _, _ | _⟩ := given <;> rfl

theorem ServerOverlay.InHttp.decode {entries : List (Node × Node)} {given : ServerOverlay}
    (h : given.InHttp named entries) {node : Node} (hnode : node.target named = .mapping entries) :
    Part.http.decode.Stands named node (given.on {}) := by
  intro place
  obtain ⟨server, hserver, rfl⟩ := h.server.effect ServerOverlay.Of.decode
  rw [Part.decode, Section.decode_of_effects Part.http.regular hnode (.cons hserver .nil) h.proper]
  cases server <;> rfl

theorem ServerOverlay.InInstrumentation.decode {entries : List (Node × Node)}
    {given : ServerOverlay} (h : given.InInstrumentation named entries) {node : Node}
    (hnode : node.target named = .mapping entries) :
    Part.instrumentation.decode.Stands named node (given.on {}) := by
  intro place
  obtain ⟨server, hserver, rfl⟩ := h.http.effect ServerOverlay.InHttp.decode
  rw [Part.decode, Section.decode_of_effects Part.instrumentation.regular hnode
    (.cons hserver .nil) h.proper]
  cases server <;> rfl

theorem LoggingOverlay.Of.decode {entries : List (Node × Node)} {given : LoggingOverlay}
    (h : given.Of named entries) {node : Node} (hnode : node.target named = .mapping entries) :
    Part.logging.decode.Stands named node (given.on {}) := by
  intro place
  rw [Part.decode, Section.decode_of_effects Part.logging.regular hnode
    (.cons (h.level.effect id) <| .cons (h.format.effect id) .nil) h.proper]
  obtain ⟨_ | _, _ | _⟩ := given <;> rfl

/-- What a document gives is put on top of the default configuration. -/
theorem Overlay.Of.decode {entries : List (Node × Node)} {given : Overlay}
    (h : given.Of named entries) {root : Node} (hroot : root.target named = .mapping entries) :
    decode named root = .ok (given.on {}) := by
  obtain ⟨telemetry, htelemetry, heq⟩ := h.telemetry.effect TelemetryOverlay.Of.decode
  obtain ⟨server, hserver, heq'⟩ := h.instrumentation.effect ServerOverlay.InInstrumentation.decode
  obtain ⟨logging, hlogging, heq''⟩ := h.logging.effect LoggingOverlay.Of.decode
  change Part.root.decode named [] root = _
  rw [Part.decode, Section.decode_of_effects Part.root.regular hroot
    (.cons htelemetry <| .cons hserver <| .cons hlogging .nil) h.proper]
  obtain ⟨_, _, _⟩ := given
  subst heq heq' heq''
  cases telemetry <;> cases server <;> cases logging <;> rfl

/-! ## Texts -/

/-- The text has one document, with a root and nodes with names, and it is not blank. -/
structure HasDocument (s : Text) (root : Node) (named : Named) : Prop where
  notBlank : s.blank = false
  read : Documents.read? s = some ⟨[root], named⟩

theorem HasDocument.ofText_eq {s : Text} {root : Node} (h : HasDocument s root named) :
    ofText s = (Configuration.decode named root).mapError .misfit := by
  unfold ofText
  rw [if_neg (by simp [h.notBlank])]
  simp only [h.read, List.isEmpty_nil, ↓reduceIte]
  cases Configuration.decode named root <;> rfl

theorem ofText_eq_ok_iff {s : Text} {root : Node} (h : HasDocument s root named)
    {c : Configuration} : ofText s = .ok c ↔ Configuration.decode named root = .ok c := by
  rw [h.ofText_eq]
  cases Configuration.decode named root <;> simp [Except.mapError]

/-- An entry that a section may not have, as its key is no field or is there twice. -/
theorem Part.not_proper {part : Part} {before after : List (Node × Node)} {key value : Node}
    (h : (∀ name ∈ part.fields, key.text? named ≠ some name.toList) ∨
      ∃ e ∈ before ++ after, e.1.text? named = key.text? named) :
    ¬ part.Proper named (before ++ (key, value) :: after) := by
  rintro ⟨hknown, hdistinct⟩
  rcases h with hunknown | ⟨e, he, heq⟩
  · obtain ⟨name, hname, hkey⟩ := hknown (key, value) (by simp)
    obtain ⟨field, hfield, rfl⟩ := List.mem_map.1 hname
    exact hunknown field hfield hkey
  · rw [List.map_append, List.map_cons, List.nodup_middle, ← List.map_append,
      List.nodup_cons] at hdistinct
    exact hdistinct.1 (List.mem_map.2 ⟨e, he, heq⟩)

/-- **A document is an overlay on the default configuration.** A document whose mappings give some of
the settings stands for the default with exactly these replaced, and the order of the keys of its
mappings makes no difference. It is refused if one of its sections, at whatever depth, has a key that is
no field of the section or is there another time. The labels of the resource are no section: their
names are free, and a label that is written again keeps its last text. -/
theorem document_overlays_default :
    (∀ {s : Text} {root : Node} {named : Named} {entries : List (Node × Node)} {given : Overlay},
      HasDocument s root named → root.target named = .mapping entries →
        given.Of named entries → ofText s = .ok (given.on {})) ∧
    (∀ {s s' : Text} {root root' : Node} {named named' : Named} {c : Configuration},
      HasDocument s root named → HasDocument s' root' named' →
        Reordered named named' root root' → ofText s = .ok c → ofText s' = .ok c) ∧
    ∀ {s : Text} {root : Node} {named : Named} (part : Part) {node key value : Node}
      {before after : List (Node × Node)},
      HasDocument s root named → Reaches named (part.path.map String.toList) root node →
        node.target named = .mapping (before ++ (key, value) :: after) →
        ((∀ name ∈ part.fields, key.text? named ≠ some name.toList) ∨
          ∃ e ∈ before ++ after, e.1.text? named = key.text? named) →
        ∃ misfit, ofText s = .error (.misfit misfit) := by
  refine ⟨?overlay, ?reordered, ?refused⟩
  case overlay =>
    intro s root named entries given hdocument hroot hgiven
    exact (ofText_eq_ok_iff hdocument).2 (hgiven.decode hroot)
  case reordered =>
    intro s s' root root' named named' c hdocument hdocument' hreordered hc
    rw [ofText_eq_ok_iff hdocument] at hc
    rw [ofText_eq_ok_iff hdocument']
    exact Part.root.decode_orderless hreordered hc []
  case refused =>
    intro s root named part node key value before after hdocument hpath hnode hkey
    rw [hdocument.ofText_eq]
    cases hdecode : Configuration.decode named root with
    | error misfit => exact ⟨misfit, rfl⟩
    | ok c => exact absurd (part.proper_of_decode hdecode hpath hnode) (Part.not_proper hkey)

/-- A scalar without quotes. -/
def plainNode (s : String) : Node :=
  .scalar s.toList true none

/-- A document with some settings of the log. -/
def loggingDocument (settings : List (String × String)) : Node :=
  .mapping [(plainNode "logging",
    .mapping (settings.map fun (name, value) => (plainNode name, plainNode value)))]

theorem document_overlays_default_logging :
    ofText "logging: {format: json, level: warn}".toList
      = .ok { logging := { level := "warn".toList, format := .json } } ∧
    ofText "logging: {level: warn, format: json}".toList
      = .ok { logging := { level := "warn".toList, format := .json } } ∧
    ∃ misfit, ofText "logging: {colour: red}".toList = .error (.misfit misfit) := by
  obtain ⟨overlay, reordered, refused⟩ := document_overlays_default
  have hread : HasDocument "logging: {format: json, level: warn}".toList
      (loggingDocument [("format", "json"), ("level", "warn")]) [] := ⟨by decide, by cbv⟩
  have hread' : HasDocument "logging: {level: warn, format: json}".toList
      (loggingDocument [("level", "warn"), ("format", "json")]) [] := ⟨by decide, by cbv⟩
  have hread'' : HasDocument "logging: {colour: red}".toList
      (loggingDocument [("colour", "red")]) [] := ⟨by decide, by cbv⟩
  have hok : ofText "logging: {format: json, level: warn}".toList
      = .ok (Overlay.on { logging := ⟨some "warn".toList, some .json⟩ } {}) := by
    refine overlay hread rfl ⟨⟨by decide, by decide⟩, ⟨none, ?telemetry, rfl⟩,
      ⟨none, ?instrumentation, rfl⟩,
      ⟨some _, ⟨_, _, List.mem_cons_self, rfl, _, rfl, ⟨by decide, by decide⟩, ?level, ?format⟩,
        rfl⟩⟩
    case telemetry => exact List.forall_mem_singleton.2 (by decide)
    case instrumentation => exact List.forall_mem_singleton.2 (by decide)
    case level => exact ⟨plainNode "level", plainNode "warn", by simp, rfl, fun _ => rfl⟩
    case format => exact ⟨plainNode "format", plainNode "json", by simp, rfl, fun _ => rfl⟩
  refine ⟨hok, ?_, ?_⟩
  · refine reordered hread hread' ?_ hok
    have hsettings : Reordered [] [] (.mapping [(plainNode "format", plainNode "json"),
        (plainNode "level", plainNode "warn")]) (.mapping [(plainNode "level", plainNode "warn"),
        (plainNode "format", plainNode "json")]) :=
      .mapping rfl rfl (.of_perm (by decide) (.swap _ _ _))
        (.cons .written (.cons .written .nil))
        (.cons (.scalar rfl rfl) (.cons (.scalar rfl rfl) .nil))
    exact .mapping rfl rfl (.of_perm (by decide) (.refl _)) (.cons .written .nil)
      (.cons hsettings .nil)
  · have hcolour : Node.target [] (.mapping [(plainNode "colour", plainNode "red")])
        = .mapping ([] ++ (plainNode "colour", plainNode "red") :: []) := rfl
    exact refused .logging hread'' (.under rfl List.mem_cons_self rfl .here) hcolour
      (.inl (by decide))

end Configuration

end ServerTelemetry
