import ServerTelemetry.Proofs.Configuration.Layers

/-!
# Configurations written as environments

A setting may be written in many ways: flags in any case, lists with blanks and empty entries, the
names of exporters in any order (`Variable.Written`). What is written for a setting that a variable
can express denotes that setting again (`Variable.Written.denotes`), so an environment with all
settings of one configuration puts these into every configuration (`written_environment_read`).
-/

namespace ServerTelemetry

open Text

/-! ## Writing -/

/-- Some names, or the word for none. -/
def namesOrNone (names : List Text) : List Text :=
  if names.isEmpty then ["none".toList] else names

/-- The exporters that are on, for one that prints spans and one that sends them. -/
def exportersOn (logging otlp : Bool) : List Exporter :=
  (if logging then [.logging] else []) ++ if otlp then [.otlp] else []

/-- The text is one that a value of a setting may be written as. -/
def Variable.Written : (v : Variable) → Text → v.Value → Prop
  | .disabled, s, on => FlagWord s (! on)
  | .serviceName, s, name => name = some s
  | .propagators, s, formats => ListText (namesOrNone (formats.map (·.name))) s
  | .exporters, s, (logging, otlp) =>
    ∃ names, names.Perm (namesOrNone ((exportersOn logging otlp).map (·.name))) ∧ ListText names s
  | .endpoint, s, place => place = some s
  | .protocol, s, .grpc => Padded "grpc".toList s
  | .protocol, s, .http => Padded "http/protobuf".toList s
  | .timeout, s, d => ∃ millis, d.nanos = millis * 1000000 ∧ Padded (decimal millis) s
  | .serverEnabled, s, on => FlagWord s on
  | .requestHeaders, s, list | .responseHeaders, s, list | .knownMethods, s, list => ListText list s
  | .preferForwardedScheme, s, on => FlagWord s on

/-- The entries of a list, at least one. -/
def Listable (entries : List Text) : Prop :=
  entries ≠ [] ∧ ∀ s ∈ entries, IsEntry s

instance {entries : List Text} : Decidable (Listable entries) :=
  inferInstanceAs (Decidable (_ ∧ _))

/-- A variable can give its setting the value: texts must not be blank, lists must have entries that
a list keeps, and a time limit must be a number of milliseconds of 64 bits. -/
def Variable.Expressible : (v : Variable) → v.Value → Prop
  | .serviceName, name | .endpoint, name => ∃ s, name = some s ∧ s.blank = false
  | .requestHeaders, list | .responseHeaders, list | .knownMethods, list => Listable list
  | .timeout, d => ∃ millis, millis < UInt64.size ∧ d.nanos = millis * 1000000
  | .disabled, _ | .propagators, _ | .exporters, _ | .protocol, _ | .serverEnabled, _ => True
  | .preferForwardedScheme, _ => True

/-- One text among those that a value may be written as. -/
def Variable.write : (v : Variable) → v.Value → Text
  | .disabled, on => flagWord (! on)
  | .serviceName, name | .endpoint, name => name.getD []
  | .propagators, formats => join [','] (namesOrNone (formats.map (·.name)))
  | .exporters, (logging, otlp) =>
    join [','] (namesOrNone ((exportersOn logging otlp).map (·.name)))
  | .protocol, p => p.environmentName
  | .timeout, d => decimal (d.nanos / 1000000)
  | .requestHeaders, list | .responseHeaders, list | .knownMethods, list => join [','] list
  | .serverEnabled, on | .preferForwardedScheme, on => flagWord on

namespace Configuration

/-- The environment has a text for every setting of the configuration. -/
def WrittenAs (c : Configuration) (e : Environment) : Prop :=
  ∀ v : Variable, ∃ s, e v = some s ∧ v.Written s (c.setting v)

/-- The configuration as an environment. -/
def toEnvironment (c : Configuration) : Environment := fun v =>
  some (v.write (c.setting v))

end Configuration

/-! ## Reading what is written -/

theorem flagWord_written (value : Bool) : FlagWord (flagWord value) value :=
  ⟨flagWord value, by cases value <;> decide, .refl _⟩

theorem FlagWord.not_blank {s : Text} {value : Bool} (h : FlagWord s value) : s.blank = false := by
  refine not_blank_of_trim fun htrim => ?_
  have hword := flagWord_iff.1 h
  rw [htrim] at hword
  cases value <;> exact absurd hword (by decide)

theorem listable_formats (formats : List Propagator) :
    Listable (namesOrNone (formats.map (·.name))) := by
  rw [namesOrNone]
  cases formats with
  | nil => decide
  | cons p formats =>
    refine ⟨by simp, fun s hs => ?_⟩
    obtain ⟨q, -, rfl⟩ := List.mem_map.1 hs
    cases q <;> decide

theorem listable_exporters (logging otlp : Bool) :
    Listable (namesOrNone ((exportersOn logging otlp).map (·.name))) := by
  cases logging <;> cases otlp <;> decide

theorem Listable.of_perm {entries names : List Text} (h : Listable entries)
    (hperm : names.Perm entries) : Listable names := by
  refine ⟨fun hnil => h.1 ?_, fun s hs => h.2 s (hperm.mem_iff.1 hs)⟩
  subst hnil
  exact List.nil_perm.1 hperm

/-- What the names of the exporters that are on say of both. -/
theorem names_exportersOn (logging otlp : Bool) :
    let names := namesOrNone ((exportersOn logging otlp).map (·.name))
    (∀ name ∈ names, name ∈ exporterNames) ∧
      (logging = true ↔ "logging".toList ∈ names ∨ "console".toList ∈ names) ∧
      (otlp = true ↔ "otlp".toList ∈ names) := by
  cases logging <;> cases otlp <;> decide

/-- A list that is not empty is not blank, and has the entries that it was written with. -/
theorem Listable.read {entries : List Text} (hentries : Listable entries) {s : Text}
    (h : ListText entries s) : Lists s entries ∧ s.blank = false := by
  have hlists : Lists s entries := ⟨h, hentries.2⟩
  refine ⟨hlists, Bool.eq_false_iff.2 fun hblank => hentries.1 ?_⟩
  rw [← lists_iff.1 hlists, items_of_blank hblank]

namespace Variable

/-- **What is written for a setting denotes it**, and is not blank. -/
theorem Written.denotes {v : Variable} {s : Text} {x : v.Value} (h : v.Written s x)
    (hx : v.Expressible x) : v.Denotes s x ∧ s.blank = false := by
  cases v with
  | disabled | serverEnabled | preferForwardedScheme => exact ⟨h, FlagWord.not_blank h⟩
  | serviceName | endpoint =>
    obtain ⟨t, ht, hblank⟩ := hx
    obtain rfl := Option.some.inj (ht.symm.trans h)
    exact ⟨h, hblank⟩
  | requestHeaders | responseHeaders | knownMethods => exact Listable.read hx h
  | propagators =>
    obtain ⟨hlists, hblank⟩ := (listable_formats x).read h
    refine ⟨?_, hblank⟩
    cases x with
    | nil => exact Or.inl ⟨hlists, rfl⟩
    | cons p formats => exact Or.inr hlists
  | exporters =>
    obtain ⟨logging, otlp⟩ := x
    obtain ⟨names, hperm, hnames⟩ := h
    obtain ⟨hlists, hblank⟩ := ((listable_exporters logging otlp).of_perm hperm).read hnames
    obtain ⟨hknown, hlogging, hotlp⟩ := names_exportersOn logging otlp
    refine ⟨⟨names, hlists, fun name hname => hknown name (hperm.mem_iff.1 hname), ?_, ?_⟩, hblank⟩
    · rw [hperm.mem_iff, hperm.mem_iff]
      exact hlogging
    · rw [hperm.mem_iff]
      exact hotlp
  | protocol =>
    cases x with
    | grpc => exact ⟨Or.inl ⟨h, rfl⟩, Padded.not_blank h (by decide) (by decide)⟩
    | http => exact ⟨Or.inr ⟨h, rfl⟩, Padded.not_blank h (by decide) (by decide)⟩
  | timeout =>
    obtain ⟨millis, hd, hs⟩ := h
    obtain ⟨millis', hlt, hd'⟩ := hx
    obtain rfl : millis = millis' := by omega
    have hdigits := digits_decimal millis
    have hnumeral : Numeral (decimal millis) millis := ⟨decimal millis, Or.inl rfl, hdigits⟩
    exact ⟨⟨decimal millis, millis, hs, hnumeral, hlt, hd⟩,
      hs.not_blank hnumeral.bareEnds hdigits.ne_nil⟩

theorem written_write {v : Variable} {x : v.Value} (hx : v.Expressible x) :
    v.Written (v.write x) x := by
  cases v with
  | disabled | serverEnabled | preferForwardedScheme => exact flagWord_written _
  | serviceName | endpoint =>
    obtain ⟨s, rfl, -⟩ := hx
    exact rfl
  | requestHeaders | responseHeaders | knownMethods | propagators => exact listText_join _
  | exporters => exact ⟨_, .refl _, listText_join _⟩
  | protocol => cases x <;> exact .refl _
  | timeout =>
    obtain ⟨millis, -, hd⟩ := hx
    refine ⟨millis, hd, ?_⟩
    rw [write, hd, Nat.mul_div_cancel millis (by decide)]
    exact .refl _

end Variable

namespace Configuration

/-- The configuration with the governed settings of another one. -/
def withSettings (c d : Configuration) : Configuration :=
  { d with telemetry := { d.telemetry with resource := c.telemetry.resource }, logging := c.logging }

@[simp] theorem setting_withSettings (c d : Configuration) (v : Variable) :
    (c.withSettings d).setting v = d.setting v := by
  cases v <;> rfl

/-- **The environment can say what a document can say.** If all settings of a configuration can be
expressed by variables, it can be written as an environment, and every environment that it may be
written as is taken by every configuration and gives this one's value to every governed setting, and
to no other one. -/
theorem written_environment_read {c : Configuration}
    (h : ∀ v : Variable, v.Expressible (c.setting v)) :
    c.WrittenAs c.toEnvironment ∧
      ∀ (e : Environment) (start : Configuration), c.WrittenAs e →
        ∃ d, start.apply e = (d, none) ∧ (∀ v, d.setting v = c.setting v) ∧
          d.ungoverned = start.ungoverned := by
  refine ⟨fun v => ⟨_, rfl, Variable.written_write (h v)⟩, fun e start hwritten => ?_⟩
  have hsets : ∀ v, ∃ s, e.Sets v s ∧ v.Denotes s (c.setting v) := by
    intro v
    obtain ⟨s, hs, hv⟩ := hwritten v
    obtain ⟨hdenotes, hblank⟩ := hv.denotes (h v)
    obtain ⟨c, hc, hbare⟩ := not_blank_iff.1 hblank
    exact ⟨s, ⟨hs, c, hc, hbare⟩, hdenotes⟩
  have hoverridden : start.Overridden e (start.withSettings c) := by
    refine ⟨fun v s hs => ?_, fun v hunset => ?_, rfl⟩
    · obtain ⟨t, ht, hdenotes⟩ := hsets v
      obtain rfl := ht.inj hs
      rwa [setting_withSettings]
    · obtain ⟨t, ht, -⟩ := hsets v
      exact absurd ht (hunset t)
  exact ⟨_, hoverridden.apply_eq, start.setting_withSettings c, rfl⟩

/-- A list with gaps and the names of exporters in another order say the same. -/
theorem written_environment_read_shop :
    let shop : Configuration := {
      telemetry := {
        serviceName := some "shop".toList, propagators := [],
        exporters := ⟨true, ⟨true, some "http://collector".toList, .http, .ofMillis 2500⟩⟩ }
      server := { recorded := {
        capturedRequestHeaders := ["x-a".toList, "x-b".toList]
        capturedResponseHeaders := ["x-c".toList]
        knownMethods := ["GET".toList] } } }
    let vars : List (Variable × String) := [(.disabled, "FALSE"), (.serviceName, "shop"),
      (.propagators, "none"), (.exporters, "otlp,logging"), (.endpoint, "http://collector"),
      (.protocol, " http/protobuf"), (.timeout, "2500"), (.serverEnabled, "True"),
      (.requestHeaders, ", x-a ,,x-b"), (.responseHeaders, "x-c"), (.knownMethods, "GET"),
      (.preferForwardedScheme, "false")]
    let e : Environment := fun v => (vars.lookup v).map String.toList
    (∀ v : Variable, v.Expressible (shop.setting v)) ∧ shop.WrittenAs e ∧
      ∃ d, apply {} e = (d, none) ∧ ∀ v, d.setting v = shop.setting v := by
  intro shop vars e
  have hexpressible : ∀ v : Variable, v.Expressible (shop.setting v) := by
    intro v
    cases v with
    | serviceName | endpoint => exact ⟨_, rfl, by decide⟩
    | requestHeaders => exact (by decide : Listable ["x-a".toList, "x-b".toList])
    | responseHeaders => exact (by decide : Listable ["x-c".toList])
    | knownMethods => exact (by decide : Listable ["GET".toList])
    | timeout => exact ⟨2500, by decide, rfl⟩
    | disabled | propagators | exporters | protocol | serverEnabled | preferForwardedScheme =>
      exact trivial
  have hwritten : shop.WrittenAs e := by
    intro v
    cases v with
    | serviceName | endpoint => exact ⟨_, rfl, rfl⟩
    | disabled => exact ⟨_, rfl, "FALSE".toList, by decide, .refl _⟩
    | serverEnabled => exact ⟨_, rfl, "True".toList, by decide, .refl _⟩
    | preferForwardedScheme => exact ⟨_, rfl, "false".toList, by decide, .refl _⟩
    | propagators | responseHeaders | knownMethods => exact ⟨_, rfl, listText_join _⟩
    | requestHeaders =>
      have hspaced : Spaced ["x-a".toList, "x-b".toList] [[], " x-a ".toList, [], "x-b".toList] :=
        .gap rfl (.entry ⟨[' '], [' '], rfl, rfl, rfl⟩ (.gap rfl (.entry (.refl _) .nil)))
      exact ⟨_, rfl, _, hspaced, rfl⟩
    | exporters => exact ⟨_, rfl, ["otlp".toList, "logging".toList], .swap _ _ _, listText_join _⟩
    | protocol => exact ⟨_, rfl, [' '], [], rfl, rfl, rfl⟩
    | timeout => exact ⟨_, rfl, 2500, rfl, .refl _⟩
  obtain ⟨d, happly, hsettings, -⟩ := (written_environment_read hexpressible).2 e {} hwritten
  exact ⟨hexpressible, hwritten, d, happly, hsettings⟩

end Configuration

end ServerTelemetry
