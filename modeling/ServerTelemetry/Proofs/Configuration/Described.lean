import ServerTelemetry.Proofs.Configuration.RoundTrip
import ServerTelemetry.Proofs.Configuration.Stray
import ServerTelemetry.Proofs.Schema.Sections

/-!
# What the schema says of configurations

The schema, the values that configurations are written as and the decoder of documents describe one tree
of sections. What a section is written as is allowed by its schema (`allows_value`), its schema is one
that keys lead to (`leads_schemaValue`), and besides it they lead to no schemas of records but that of
the labels of the resource (`shown_ofRecords`). The keys that it does not forbid are those that documents
may have there (`forbids_schemaValue_iff`, `takesKey_iff`). `schema_describes` puts this together with
what becomes of the other keys.
-/

namespace ServerTelemetry.Configuration

open Document Schema Yaml

/-- The definitions of the schema. -/
abbrev definitions : List (Text × Value) :=
  definitionsOf schema.toValue

namespace Part

/-! ## Schemas of sections -/

/-- The properties that the section is described with; all but the root are definitions. -/
def properties : Part → List Property
  | root => schema.properties
  | part =>
    match schema.definitions.lookup part.asSection.kind with
    | some (.record properties) => properties
    | _ => []

/-- The schema of the section. -/
def schemaValue : Part → Value
  | root => schema.toValue
  | part => recordOf (recordFields part.properties)

theorem names_properties (part : Part) : part.properties.map (·.name) = part.names := by
  cases part <;> rfl

theorem nodup_properties (part : Part) : (part.properties.map (·.name)).Nodup := by
  rw [names_properties, ← names_asSection]
  exact part.regular.distinct

theorem allows_schemaValue_iff {part : Part} {ahead : List Text} {value : Value} :
    Allows definitions ahead part.schemaValue value ↔
      Allows definitions ahead (recordOf (recordFields part.properties)) value := by
  cases part with
  | root => exact allows_toValue_iff
  | _ => rfl

theorem lookup_keyword (part : Part) :
    part.schemaValue.fields.lookup "$ref".toList = none ∧
      part.schemaValue.fields.lookup "allOf".toList = none := by
  cases part <;> exact ⟨rfl, rfl⟩

theorem lookup_properties (part : Part) : part.schemaValue.fields.lookup "properties".toList
    = some (.record (part.properties.map fun p => (p.name, propertyValue p))) := by
  cases part <;> rfl

theorem ofRecords_schemaValue (part : Part) : OfRecords part.schemaValue := by
  cases part <;> rfl

theorem Holds.lookup_definitions {p q : Part} {name : String} (h : p.Holds name q) :
    definitions.lookup q.asSection.kind = some q.schemaValue := by
  cases h <;> rfl

/-- A key that the section holds another one under has a reference to it. -/
theorem Holds.exists_property {p q : Part} {name : String} (h : p.Holds name q) :
    ∃ property ∈ p.properties, property.name = name.toList ∧
      property.shape = .reference q.asSection.kind := by
  cases h with
  | telemetry => exact ⟨_, .head _, rfl, rfl⟩
  | exporters => exact ⟨_, .tail _ <| .tail _ <| .tail _ <| .tail _ <| .head _, rfl, rfl⟩
  | loggingExporter => exact ⟨_, .head _, rfl, rfl⟩
  | otlp => exact ⟨_, .tail _ <| .head _, rfl, rfl⟩
  | instrumentation => exact ⟨_, .tail _ <| .head _, rfl, rfl⟩
  | http => exact ⟨_, .head _, rfl, rfl⟩
  | server => exact ⟨_, .head _, rfl, rfl⟩
  | logging => exact ⟨_, .tail _ <| .tail _ <| .head _, rfl, rfl⟩

end Part

/-! ## What is written -/

/-- What a section is written as. -/
def Part.value : (part : Part) → part.Settings → Value
  | root, c => c.toValue
  | telemetry, t => telemetryValue t
  | exporters, e => exportersValue e
  | loggingExporter, enabled => recordOf [("enabled", .flag enabled)]
  | otlp, o => otlpValue o
  | instrumentation, s => recordOf [("http", recordOf [("server", serverValue s)])]
  | http, s => recordOf [("server", serverValue s)]
  | server, s => serverValue s
  | logging, l => loggingValue l

theorem Part.names_value (part : Part) (x : part.Settings) :
    (part.value x).fields.map Prod.fst = part.names := by
  cases part <;> rfl

theorem Part.value_eq (part : Part) (x : part.Settings) :
    part.value x = .record (part.value x).fields := by
  cases part <;> rfl

theorem Part.Holds.mem_value {p q : Part} {name : String} (h : p.Holds name q) :
    (name.toList, q.value q.defaults) ∈ (p.value p.defaults).fields := by
  cases h with
  | telemetry => exact .head _
  | exporters => exact .tail _ <| .tail _ <| .tail _ <| .tail _ <| .head _
  | loggingExporter => exact .head _
  | otlp => exact .tail _ <| .head _
  | instrumentation => exact .tail _ <| .head _
  | http => exact .head _
  | server => exact .head _
  | logging => exact .tail _ <| .tail _ <| .head _

/-- What is written under a key is allowed by the definition that is referred to there. -/
theorem allows_reference {name : Text} {s value : Value} (hname : definitions.lookup name = some s)
    (h : ∀ {ahead}, Allows definitions ahead s value) :
    Allows definitions (namesOf definitions) (recordOf (shapeFields (.reference name))) value :=
  (allows_reference_iff hname).2 h

theorem allows_section {part : Part} {fields : List (String × Value)}
    (h : List.Forall₂ (fun p f => p.name = f.1.toList ∧
      Allows definitions (namesOf definitions) (recordOf (shapeFields p.shape)) f.2)
      part.properties fields) {ahead : List Text} :
    Allows definitions ahead part.schemaValue (recordOf fields) :=
  Part.allows_schemaValue_iff.2 (allows_recordFields part.nodup_properties h)

variable {ahead : List Text}

theorem allows_protocol (p : Protocol) :
    Allows definitions ahead (definitionValue (.words (Protocol.all.map (·.name)))) (.text p.name) :=
  allows_words_iff.2 (by cases p <;> decide)

theorem allows_logFormat (f : LogFormat) :
    Allows definitions ahead (definitionValue (.words (LogFormat.all.map (·.name)))) (.text f.name) :=
  allows_words_iff.2 (by cases f <;> decide)

theorem allows_propagator (p : Propagator) :
    Allows definitions ahead
      (definitionValue (.explained (Propagator.all.map fun p => (p.name, aboutPropagator p))))
      (.text p.name) :=
  allows_explained (by decide) (by cases p <;> decide)

theorem allows_loggingExporter (enabled : Bool) :
    Allows definitions ahead Part.loggingExporter.schemaValue
      (recordOf [("enabled", .flag enabled)]) :=
  allows_section (.cons ⟨rfl, allows_flag enabled⟩ .nil)

theorem allows_otlp (o : OtlpSettings) :
    Allows definitions ahead Part.otlp.schemaValue (otlpValue o) :=
  allows_section (.cons ⟨rfl, allows_flag o.enabled⟩ <| .cons ⟨rfl, allows_text? o.endpoint⟩ <|
    .cons ⟨rfl, allows_reference rfl (allows_protocol o.protocol)⟩ <|
    .cons ⟨rfl, allows_text o.timeout.write⟩ .nil)

theorem allows_exporters (e : ExporterSettings) :
    Allows definitions ahead Part.exporters.schemaValue (exportersValue e) :=
  allows_section (.cons ⟨rfl, allows_reference rfl (allows_loggingExporter e.logging)⟩ <|
    .cons ⟨rfl, allows_reference rfl (allows_otlp e.otlp)⟩ .nil)

theorem allows_telemetry (t : TelemetrySettings) :
    Allows definitions ahead Part.telemetry.schemaValue (telemetryValue t) := by
  have hresource : ∀ f ∈ t.resource.entries.map fun e => (e.1, Value.text e.2),
      ∃ s, f.2 = .text s :=
    List.forall_mem_map.2 fun e _ => ⟨e.2, rfl⟩
  have hpropagators : ∀ v ∈ (t.propagators.map (·.name)).map Value.text,
      Allows definitions (namesOf definitions)
        (recordOf (shapeFields (.reference "Propagator".toList))) v :=
    List.forall_mem_map.2 <| List.forall_mem_map.2 fun p _ =>
      allows_reference rfl (allows_propagator p)
  exact allows_section (.cons ⟨rfl, allows_flag t.enabled⟩ <|
    .cons ⟨rfl, allows_text? t.serviceName⟩ <| .cons ⟨rfl, allows_labels_iff.2 hresource⟩ <|
    .cons ⟨rfl, allows_list hpropagators⟩ <|
    .cons ⟨rfl, allows_reference rfl (allows_exporters t.exporters)⟩ .nil)

theorem allows_server (s : ServerSettings) :
    Allows definitions ahead Part.server.schemaValue (serverValue s) :=
  allows_section (.cons ⟨rfl, allows_flag s.enabled⟩ <|
    .cons ⟨rfl, allows_texts s.recorded.capturedRequestHeaders⟩ <|
    .cons ⟨rfl, allows_texts s.recorded.capturedResponseHeaders⟩ <|
    .cons ⟨rfl, allows_flag s.recorded.preferForwardedScheme⟩ <|
    .cons ⟨rfl, allows_texts s.recorded.knownMethods⟩ .nil)

theorem allows_http (s : ServerSettings) :
    Allows definitions ahead Part.http.schemaValue (recordOf [("server", serverValue s)]) :=
  allows_section (.cons ⟨rfl, allows_reference rfl (allows_server s)⟩ .nil)

theorem allows_instrumentation (s : ServerSettings) :
    Allows definitions ahead Part.instrumentation.schemaValue
      (recordOf [("http", recordOf [("server", serverValue s)])]) :=
  allows_section (.cons ⟨rfl, allows_reference rfl (allows_http s)⟩ .nil)

theorem allows_logging (l : LoggingSettings) :
    Allows definitions ahead Part.logging.schemaValue (loggingValue l) :=
  allows_section (.cons ⟨rfl, allows_text l.level⟩ <|
    .cons ⟨rfl, allows_reference rfl (allows_logFormat l.format)⟩ .nil)

theorem allows_toValue (c : Configuration) :
    Allows definitions ahead Part.root.schemaValue c.toValue :=
  allows_section (.cons ⟨rfl, allows_reference rfl (allows_telemetry c.telemetry)⟩ <|
    .cons ⟨rfl, allows_reference rfl (allows_instrumentation c.server)⟩ <|
    .cons ⟨rfl, allows_reference rfl (allows_logging c.logging)⟩ .nil)

theorem allows_value (part : Part) (x : part.Settings) {ahead : List Text} :
    Allows definitions ahead part.schemaValue (part.value x) := by
  cases part with
  | root => exact allows_toValue x
  | telemetry => exact allows_telemetry x
  | exporters => exact allows_exporters x
  | loggingExporter => exact allows_loggingExporter x
  | otlp => exact allows_otlp x
  | instrumentation => exact allows_instrumentation x
  | http => exact allows_http x
  | server => exact allows_server x
  | logging => exact allows_logging x

/-! ## What keys lead to -/

/-- The keys that lead to the labels of the resource, which are no section. -/
def resourceKeys : List Text :=
  ["telemetry".toList, "resource".toList]

theorem Part.keys_ne_resourceKeys (part : Part) : part.keys ≠ resourceKeys := by
  cases part <;> decide

/-- What is described for a property of a section: a value that is no record, the labels of the
resource, words, or a section. -/
inductive Part.Lists (part : Part) (p : Property) : Prop
  | value (hreference : ∀ name, p.shape ≠ .reference name) (hlabels : p.shape ≠ .labels)
  | labels (h : p.shape = .labels) (hpath : part.keys ++ [p.name] = resourceKeys)
  | words {name : Text} {s : Value} (h : p.shape = .reference name)
      (hname : definitions.lookup name = some s) (hplain : Plain s)
  | part {key : String} {q : Part} (h : p.shape = .reference q.asSection.kind)
      (hkey : p.name = key.toList) (hq : part.Holds key q)

theorem Part.lists (part : Part) : ∀ p ∈ part.properties, part.Lists p := by
  cases part with
  | root =>
    exact List.forall_mem_cons.2 ⟨.part rfl rfl .telemetry,
      List.forall_mem_cons.2 ⟨.part rfl rfl .instrumentation,
      List.forall_mem_singleton.2 (.part rfl rfl .logging)⟩⟩
  | telemetry =>
    exact List.forall_mem_cons.2 ⟨.value nofun nofun, List.forall_mem_cons.2 ⟨.value nofun nofun,
      List.forall_mem_cons.2 ⟨.labels rfl rfl, List.forall_mem_cons.2 ⟨.value nofun nofun,
      List.forall_mem_singleton.2 (.part rfl rfl .exporters)⟩⟩⟩⟩
  | exporters =>
    exact List.forall_mem_cons.2 ⟨.part rfl rfl .loggingExporter,
      List.forall_mem_singleton.2 (.part rfl rfl .otlp)⟩
  | loggingExporter => exact List.forall_mem_singleton.2 (.value nofun nofun)
  | otlp =>
    exact List.forall_mem_cons.2 ⟨.value nofun nofun, List.forall_mem_cons.2 ⟨.value nofun nofun,
      List.forall_mem_cons.2 ⟨.words rfl rfl (plain_words _),
      List.forall_mem_singleton.2 (.value nofun nofun)⟩⟩⟩
  | instrumentation => exact List.forall_mem_singleton.2 (.part rfl rfl .http)
  | http => exact List.forall_mem_singleton.2 (.part rfl rfl .server)
  | server =>
    exact List.forall_mem_cons.2 ⟨.value nofun nofun, List.forall_mem_cons.2 ⟨.value nofun nofun,
      List.forall_mem_cons.2 ⟨.value nofun nofun, List.forall_mem_cons.2 ⟨.value nofun nofun,
      List.forall_mem_singleton.2 (.value nofun nofun)⟩⟩⟩⟩
  | logging =>
    exact List.forall_mem_cons.2 ⟨.value nofun nofun,
      List.forall_mem_singleton.2 (.words rfl rfl (plain_words _))⟩

/-- The schemas that keys lead to. -/
inductive Shown : List Text → Value → Prop
  | part (part : Part) : Shown part.keys part.schemaValue
  | property {part : Part} {p : Property} (hp : p ∈ part.properties) :
    Shown (part.keys ++ [p.name]) (propertyValue p)
  | reference {part : Part} {p : Property} {name : Text} (hp : p ∈ part.properties)
      (hshape : p.shape = .reference name) :
    Shown (part.keys ++ [p.name]) (recordOf (shapeFields (.reference name)))
  | plain {s : Value} (path : List Text) (h : Plain s) : Shown path s

/-- All that keys lead to is shown. -/
theorem shown_of_leads {path : List Text} {s : Value} (h : Leads schema.toValue path s) :
    Shown path s := by
  induction h with
  | root => exact .part .root
  -- A reference is shown for a property, and what it refers to is the section that the key holds.
  | @reference path s name definition _ htarget hname ih =>
    cases ih with
    | part part => cases part.lookup_keyword.1.symm.trans htarget
    | @property part p => cases (lookup_propertyValue_eq_none p).1.symm.trans htarget
    | @reference part p other hp hshape =>
      obtain rfl : other = name :=
        List.append_cancel_left (Value.text.inj (Option.some.inj htarget))
      cases part.lists p hp with
      | value hreference => exact absurd hshape (hreference other)
      | labels hlabels => cases hlabels.symm.trans hshape
      | words h hs hplain =>
        obtain rfl := Shape.reference.inj (h.symm.trans hshape)
        obtain rfl := Option.some.inj (hs.symm.trans hname)
        exact .plain _ hplain
      | part h hkey hq =>
        obtain rfl := Shape.reference.inj (h.symm.trans hshape)
        obtain rfl := Option.some.inj (hq.lookup_definitions.symm.trans hname)
        rw [hkey, ← hq.keys_eq]
        exact .part _
    | plain _ h => cases h.noReference.symm.trans htarget
  -- Only the schema of a property has parts.
  | @part path s parts found _ hparts hpart ih =>
    cases ih with
    | part part => cases part.lookup_keyword.2.symm.trans hparts
    | property hp =>
      obtain ⟨name, hshape, rfl⟩ := exists_reference_of_parts hparts
      obtain rfl := List.mem_singleton.1 hpart
      exact .reference hp hshape
    | reference => cases hparts
    | plain _ h => cases h.noParts.symm.trans hparts
  -- Only the schema of a section has properties.
  | @property path s properties key found _ hproperties hkey ih =>
    cases ih with
    | part part =>
      obtain rfl := Value.record.inj (Option.some.inj (part.lookup_properties.symm.trans hproperties))
      obtain ⟨p, hp, rfl, rfl⟩ := (lookup_propertyValue_iff part.nodup_properties).1 hkey
      exact .property hp
    | @property part p => cases (lookup_propertyValue_eq_none p).2.symm.trans hproperties
    | reference => cases hproperties
    | plain _ h => cases h.noProperties.symm.trans hproperties

theorem leads_schemaValue (part : Part) : Leads schema.toValue part.keys part.schemaValue := by
  induction part using Part.rec_holds with
  | hroot => exact .root
  | @hholds p name q hq ih =>
    obtain ⟨property, hproperty, hname, hshape⟩ := hq.exists_property
    have hlookup := (lookup_propertyValue_iff p.nodup_properties).2
      ⟨property, hproperty, hname, rfl⟩
    have hparts : (propertyValue property).fields.lookup "allOf".toList
        = some (.list [recordOf (shapeFields (.reference q.asSection.kind))]) := by
      rw [lookup_propertyValue (by decide), hshape]
      rfl
    rw [hq.keys_eq]
    exact .reference (.part (.property ih p.lookup_properties hlookup) hparts List.mem_cons_self)
      rfl hq.lookup_definitions

/-- The schemas of records that keys lead to. -/
theorem shown_ofRecords {path : List Text} {s : Value} (h : Leads schema.toValue path s)
    (hrecords : OfRecords s) :
    (path = resourceKeys ∧ ∃ p : Property, p.shape = .labels ∧ s = propertyValue p) ∨
      ∃ part : Part, path = part.keys ∧ s = part.schemaValue := by
  cases shown_of_leads h with
  | part part => exact .inr ⟨part, rfl, rfl⟩
  | @property part p hp =>
    have hshape := ofRecords_propertyValue_iff.1 hrecords
    cases part.lists p hp with
    | value _ hlabels => exact absurd hshape hlabels
    | labels _ hpath => exact .inl ⟨hpath, p, hshape, rfl⟩
    | words h => cases h.symm.trans hshape
    | part h => cases h.symm.trans hshape
  | reference => cases hrecords
  | plain _ hplain => exact absurd hrecords hplain.noRecords

/-! ## Keys that are read -/

/-- A document that is read has a key where some keys lead to. -/
def TakesKey (path : List Text) (key : Text) : Prop :=
  ∃ named root c node entries keyNode value, Configuration.decode named root = .ok c ∧
    Reaches named path root node ∧ node.target named = .mapping entries ∧
    (keyNode, value) ∈ entries ∧ keyNode.text? named = some key

/-- The default configuration is written with all sections. -/
theorem reaches_value (part : Part) :
    Reaches [] part.keys (toValue {}).toNode (part.value part.defaults).toNode := by
  induction part using Part.rec_holds with
  | hroot => exact .here
  | @hholds p name q hq ih =>
    rw [hq.keys_eq]
    rw [p.value_eq] at ih
    exact reaches_append_iff.2 ⟨_, ih, .under rfl (Value.mem_toEntries hq.mem_value) rfl .here⟩

theorem takesKey_iff {part : Part} {key : Text} : TakesKey part.keys key ↔ key ∈ part.names := by
  constructor
  · rintro ⟨named, root, c, node, entries, keyNode, value, hc, hpath, hnode, hmem, hkey⟩
    obtain ⟨name, hname, hkey'⟩ := (part.proper_of_decode hc hpath hnode).known _ hmem
    obtain rfl := Option.some.inj (hkey.symm.trans hkey')
    exact hname
  · intro hkey
    rw [← part.names_value part.defaults] at hkey
    obtain ⟨⟨key, value⟩, hmem, rfl⟩ := List.mem_map.1 hkey
    have hpath := reaches_value part
    rw [part.value_eq] at hpath
    exact ⟨[], _, {}, _, _, _, _, reads_configuration {} [] [], hpath, rfl,
      Value.mem_toEntries hmem, rfl⟩

/-! ## The schema -/

theorem forbids_schemaValue_iff {part : Part} {key : Text} :
    Forbids definitions part.schemaValue key ↔ key ∉ part.names := by
  have hnames : (part.value part.defaults).fields.map Prod.fst = part.properties.map (·.name) :=
    (part.names_value _).trans part.names_properties.symm
  have hallows : Allows definitions [] part.schemaValue (part.value part.defaults) :=
    allows_value part part.defaults
  rw [part.value_eq, Part.allows_schemaValue_iff] at hallows
  rw [← part.names_properties, ← forbids_recordFields_iff part.nodup_properties hnames hallows]
  simp only [Forbids, Part.allows_schemaValue_iff]

theorem listsOnly_schemaValue (part : Part) : ListsOnly part.schemaValue part.names := by
  refine ⟨⟨_, part.lookup_properties, ?_⟩, ?_⟩
  · rw [← part.names_properties, List.map_map]
    rfl
  · cases part <;> rfl

/-- Labels may have any key. -/
theorem not_forbids_labels {p : Property} (h : p.shape = .labels) (key : Text) :
    ¬ Forbids definitions (propertyValue p) key := by
  intro hforbids
  have hallows : Allows definitions [] (recordOf (shapeFields .labels)) (.record [(key, .text [])]) :=
    allows_labels_iff.2 (List.forall_mem_singleton.2 ⟨[], rfl⟩)
  exact hforbids [] _ List.mem_cons_self (allows_propertyValue_iff.2 (h ▸ hallows))

/-- **The schema describes the configuration.** It allows what every configuration is written as. Keys
lead in it to a schema of records for every section, and such a schema is that of a section, which lists
the keys that are read there and forbids all others, or that of the labels of the resource, which
forbids none. A text with a key that the schema forbids in a section, wherever that is, and that is
otherwise as it should be, is refused, as there is no field with this name. -/
theorem schema_describes :
    (∀ c : Configuration, Describes schema.toValue c.toValue) ∧
    (∀ part : Part, ∃ s, Leads schema.toValue part.keys s ∧ OfRecords s) ∧
    (∀ {path : List Text} {s : Value}, Leads schema.toValue path s → OfRecords s →
      (path = resourceKeys ∧ ∀ key, ¬ Forbids definitions s key) ∨
      ∃ part : Part, path = part.keys ∧ ListsOnly s part.names ∧
        ∀ key, (key ∈ part.names ↔ TakesKey path key) ∧
          (Forbids definitions s key ↔ key ∉ part.names)) ∧
    ∀ {part : Part} {s : Value} {key : Text}, Leads schema.toValue part.keys s → OfRecords s →
      Forbids definitions s key →
      ∀ {named named' : Named} {root root' : Node} {place : Place} {c : Configuration} {text : Text},
        Configuration.decode named root = .ok c →
        WithKey named named' key .root part place root root' → HasDocument text root' named' →
        ofText text = .error (.misfit ⟨place, .unknownField key part.names⟩) := by
  refine ⟨?written, ?sections, ?records, ?refused⟩
  case written => exact fun c => allows_toValue c
  case sections => exact fun part => ⟨_, leads_schemaValue part, part.ofRecords_schemaValue⟩
  case records =>
    intro path s hs hrecords
    obtain ⟨hpath, p, hshape, rfl⟩ | ⟨part, rfl, rfl⟩ := shown_ofRecords hs hrecords
    · exact .inl ⟨hpath, not_forbids_labels hshape⟩
    · exact .inr ⟨part, rfl, listsOnly_schemaValue part, fun key =>
        ⟨takesKey_iff.symm, forbids_schemaValue_iff⟩⟩
  case refused =>
    intro part s key hs hrecords hforbids named named' root root' place c text hc hkey htext
    obtain ⟨hpath, -⟩ | ⟨other, hpath, rfl⟩ := shown_ofRecords hs hrecords
    · exact absurd hpath part.keys_ne_resourceKeys
    · have hname : key ∉ part.names := by
        rw [← takesKey_iff, hpath, takesKey_iff]
        exact forbids_schemaValue_iff.1 hforbids
      exact hkey.ofText_eq hname hc htext

/-- A document with telemetry turned off and some exporters. -/
def exportersDocument (exporters : List (String × String)) : Node :=
  .mapping [(plainNode "telemetry", .mapping [(plainNode "enabled", plainNode "false"),
    (plainNode "exporters",
      .mapping (exporters.map fun (name, value) => (plainNode name, plainNode value)))])]

set_option maxRecDepth 4000 in
theorem schema_describes_zipkin :
    ofText "telemetry: {enabled: false, exporters: {zipkin: on}}".toList
      = .error (.misfit ⟨[.key "exporters".toList, .key "telemetry".toList],
          .unknownField "zipkin".toList ["logging".toList, "otlp".toList]⟩) := by
  obtain ⟨-, -, -, refused⟩ := schema_describes
  have hread : HasDocument "telemetry: {enabled: false, exporters: {zipkin: on}}".toList
      (exportersDocument [("zipkin", "on")]) [] := ⟨by decide, by cbv⟩
  have hdecode : Configuration.decode [] (exportersDocument [])
      = .ok { telemetry := { enabled := false } } := rfl
  have hfront : SameEntries [] [] [(plainNode "enabled", plainNode "false")]
      [(plainNode "enabled", plainNode "false")] := .cons ⟨rfl, .scalar rfl rfl⟩ .nil
  have hkey : WithKey [] [] "zipkin".toList .root .exporters _ (exportersDocument [])
      (exportersDocument [("zipkin", "on")]) :=
    .entry .telemetry rfl rfl .nil rfl rfl <| .entry .exporters rfl rfl hfront rfl rfl <|
      .here rfl rfl .nil rfl
  exact refused (leads_schemaValue .exporters) Part.exporters.ofRecords_schemaValue
    (forbids_schemaValue_iff.2 (by decide)) hdecode hkey hread

end ServerTelemetry.Configuration
