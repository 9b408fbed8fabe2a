import ServerTelemetry.Configuration.Document
import ServerTelemetry.Proofs.Document.Reading

/-!
# Written configurations read back

Every section reads what it is written as, field by field (`decodeEntries_field`), so a
configuration is read back from its own value (`decode_toValue`).
-/

namespace ServerTelemetry.Configuration

open Document Document.Decoder Yaml

/-! ## Words -/

theorem lookup_propagatorWords (p : Propagator) : propagatorWords.lookup p.name = some p := by
  cases p <;> decide

theorem lookup_protocolWords (p : Protocol) : protocolWords.lookup p.name = some p := by
  cases p <;> decide

theorem lookup_logFormatWords (f : LogFormat) : logFormatWords.lookup f.name = some f := by
  cases f <;> decide

theorem reads_propagators (formats : List Propagator) :
    (list (word "Propagator".toList propagatorWords)).Reads
      (Value.texts (formats.map (·.name))).toNode formats := by
  rw [Value.texts, List.map_map]
  exact reads_list fun p _ => reads_word (lookup_propagatorWords p)

theorem reads_texts (values : List Text) : (list text).Reads (Value.texts values).toNode values :=
  reads_list fun s _ => reads_text s

/-! ## Records -/

/-- The entries of a mapping that a record with fields is written as. -/
def entriesOf (fields : List (String × Value)) : List (Node × Node) :=
  Value.toEntries (fields.map fun (name, value) => (name.toList, value))

variable {σ : Type} {s : Section σ}

theorem reads_recordOf {fields : List (String × Value)} {defaults x : σ}
    (h : ∀ named place, s.decodeEntries named place [] (entriesOf fields) defaults = .ok x) :
    (s.decode defaults).Reads (recordOf fields).toNode x :=
  h

theorem decodeEntries_field {α : Type} {name : String} {decoder : Decoder α} {put : α → σ → σ}
    (hfield : s.field? name.toList = some (.of name decoder put)) {seen : List Text}
    (hseen : name.toList ∉ seen) {value : Value} {x : α} (hx : decoder.Reads value.toNode x)
    {named : Named} {place : Place} (fields : List (String × Value)) (y : σ) :
    s.decodeEntries named place seen (entriesOf ((name, value) :: fields)) y
      = s.decodeEntries named place (name.toList :: seen) (entriesOf fields) (put x y) :=
  Section.decodeEntries_of hfield hseen hx (entriesOf fields) y

/-! ## Sections -/

theorem reads_loggingExporter (enabled : Bool) :
    (loggingExporterSection.decode false).Reads (recordOf [("enabled", .flag enabled)]).toNode
      enabled := by
  refine reads_recordOf fun named place => ?_
  rw [decodeEntries_field rfl (by decide) (reads_flag enabled)]
  rfl

theorem reads_otlp (o : OtlpSettings) : (otlpSection.decode {}).Reads (otlpValue o).toNode o := by
  refine reads_recordOf fun named place => ?_
  rw [decodeEntries_field rfl (by decide) (reads_flag o.enabled),
    decodeEntries_field rfl (by decide) (reads_text? o.endpoint),
    decodeEntries_field rfl (by decide) (reads_word (lookup_protocolWords o.protocol)),
    decodeEntries_field rfl (by decide) (reads_duration o.timeout)]
  rfl

theorem reads_exporters (e : ExporterSettings) :
    (exportersSection.decode {}).Reads (exportersValue e).toNode e := by
  refine reads_recordOf fun named place => ?_
  rw [decodeEntries_field rfl (by decide) (reads_loggingExporter e.logging),
    decodeEntries_field rfl (by decide) (reads_otlp e.otlp)]
  rfl

theorem reads_telemetry (t : TelemetrySettings) :
    (telemetrySection.decode {}).Reads (telemetryValue t).toNode t := by
  refine reads_recordOf fun named place => ?_
  rw [decodeEntries_field rfl (by decide) (reads_flag t.enabled),
    decodeEntries_field rfl (by decide) (reads_text? t.serviceName),
    decodeEntries_field rfl (by decide) (reads_labels t.resource),
    decodeEntries_field rfl (by decide) (reads_propagators t.propagators),
    decodeEntries_field rfl (by decide) (reads_exporters t.exporters)]
  rfl

theorem reads_server (o : ServerSettings) :
    (serverSection.decode {}).Reads (serverValue o).toNode o := by
  refine reads_recordOf fun named place => ?_
  rw [decodeEntries_field rfl (by decide) (reads_flag o.enabled),
    decodeEntries_field rfl (by decide) (reads_texts o.recorded.capturedRequestHeaders),
    decodeEntries_field rfl (by decide) (reads_texts o.recorded.capturedResponseHeaders),
    decodeEntries_field rfl (by decide) (reads_flag o.recorded.preferForwardedScheme),
    decodeEntries_field rfl (by decide) (reads_texts o.recorded.knownMethods)]
  rfl

theorem reads_instrumentation (o : ServerSettings) :
    (instrumentationSection.decode {}).Reads
      (recordOf [("http", recordOf [("server", serverValue o)])]).toNode o := by
  have hhttp : (httpSection.decode {}).Reads (recordOf [("server", serverValue o)]).toNode o := by
    refine reads_recordOf fun named place => ?_
    rw [decodeEntries_field rfl (by decide) (reads_server o)]
    rfl
  refine reads_recordOf fun named place => ?_
  rw [decodeEntries_field rfl (by decide) hhttp]
  rfl

theorem reads_logging (l : LoggingSettings) :
    (loggingSection.decode {}).Reads (loggingValue l).toNode l := by
  refine reads_recordOf fun named place => ?_
  rw [decodeEntries_field rfl (by decide) (reads_text l.level),
    decodeEntries_field rfl (by decide) (reads_word (lookup_logFormatWords l.format))]
  rfl

theorem reads_configuration (c : Configuration) :
    (rootSection.decode {}).Reads c.toValue.toNode c := by
  refine reads_recordOf fun named place => ?_
  rw [decodeEntries_field rfl (by decide) (reads_telemetry c.telemetry),
    decodeEntries_field rfl (by decide) (reads_instrumentation c.server),
    decodeEntries_field rfl (by decide) (reads_logging c.logging)]
  rfl

/-- **Every configuration is read back** from the document it is written as, whichever text it was
read from, whatever environments were applied to it, and whatever other nodes have names there. So
is every duration by itself. -/
theorem decode_toValue :
    (∀ (named : Named) (c : Configuration), decode named c.toValue.toNode = .ok c) ∧
      ∀ d : Duration, Duration.read d.write = some d :=
  ⟨fun named c => reads_configuration c named [], Duration.read_write⟩

end ServerTelemetry.Configuration
