import Mathlib.Data.List.TakeWhile
import ServerTelemetry.Proofs.Configuration.Setting
import ServerTelemetry.Proofs.Text.Number
import ServerTelemetry.Proofs.Text.Padded

/-!
# What the environment says

What a text sets the setting of its variable to is a relation of its own (`Variable.Denotes`), made of
words with blanks around them, numerals and comma lists and apart from how texts are read. Overriding
by a text puts what it denotes into the setting, and a text that
denotes nothing is refused (`follows_override`). An environment is applied variable by variable, so
it is taken if all its texts denote something, and then settles every setting it has a text for and
no other one (`apply_meaning`).
-/

namespace ServerTelemetry

open Text

/-! ## What texts denote -/

/-- The word for a truth value. -/
def flagWord : Bool → Text
  | true => "true".toList
  | false => "false".toList

/-- The text is the word for a truth value, in any case and with any blanks around it. -/
def FlagWord (s : Text) (value : Bool) : Prop :=
  ∃ word, word.map Char.toLower = flagWord value ∧ Padded word s

/-- The names of exporters in the environment, and the word for none. -/
def exporterNames : List Text :=
  ["otlp", "logging", "console", "none"].map String.toList

/-- What a list of exporters says of the one that prints spans and of the one that sends them. -/
def exportersNamed (names : List Text) : Bool × Bool :=
  (names.contains "logging".toList || names.contains "console".toList,
    names.contains "otlp".toList)

/-- Some names before the first one that is no name of an exporter. -/
def knownExporters (names : List Text) : List Text :=
  names.takeWhile exporterNames.contains

/-- What the text of a variable sets its setting to. -/
def Variable.Denotes : (v : Variable) → Text → v.Value → Prop
  | .disabled, s, on => FlagWord s (! on)
  | .serviceName, s, name => name = some s
  | .propagators, s, formats =>
    Lists s ["none".toList] ∧ formats = [] ∨ Lists s (formats.map (·.name))
  | .exporters, s, (logging, otlp) =>
    ∃ names, Lists s names ∧ (∀ name ∈ names, name ∈ exporterNames) ∧
      (logging = true ↔ "logging".toList ∈ names ∨ "console".toList ∈ names) ∧
      (otlp = true ↔ "otlp".toList ∈ names)
  | .endpoint, s, place => place = some s
  | .protocol, s, p =>
    Padded "grpc".toList s ∧ p = .grpc ∨ Padded "http/protobuf".toList s ∧ p = .http
  | .timeout, s, d =>
    ∃ numeral millis, Padded numeral s ∧ Numeral numeral millis ∧ millis < UInt64.size ∧
      d.nanos = millis * 1000000
  | .serverEnabled, s, on => FlagWord s on
  | .requestHeaders, s, list | .responseHeaders, s, list | .knownMethods, s, list => Lists s list
  | .preferForwardedScheme, s, on => FlagWord s on

/-- The first of some names that is not the name of a propagation format. -/
def FirstUnknown (names : List Text) (name : Text) : Prop :=
  ∃ (known : List Propagator) (rest : List Text),
    names = known.map (·.name) ++ name :: rest ∧ ∀ p : Propagator, p.name ≠ name

/-- What is said of a malformed text: the first name that is unknown if it is about propagation
formats, else the variable with its text. -/
def Variable.Complains : Variable → Text → ConfigurationError → Prop
  | .propagators, s, error =>
    ∃ names name, Lists s names ∧ FirstUnknown names name ∧ error = .propagator name
  | v, s, error => error = .environment v s

theorem flagWord_iff {s : Text} {value : Bool} :
    FlagWord s value ↔ lower (trim s) = flagWord value := by
  constructor
  · rintro ⟨word, hword, hs⟩
    -- The words have no blanks, so neither have these letters in another case.
    have hletters : (word.map Char.toLower).all (! isBlank ·) = true := by
      rw [hword]
      cases value <;> decide
    have hbare : ∀ c ∈ word, isBlank c = false := by
      refine fun c hc => Bool.eq_false_iff.2 fun hblank => ?_
      have hletter := List.all_eq_true.1 hletters _ (List.mem_map_of_mem hc)
      rw [toLower_of_isBlank hblank, hblank] at hletter
      cases hletter
    rwa [(padded_iff (bareEnds_of_forall hbare)).1 hs]
  · exact fun h => ⟨trim s, h, padded_trim s⟩

theorem FlagWord.inj {s : Text} {a b : Bool} (ha : FlagWord s a) (hb : FlagWord s b) : a = b := by
  have hsame := (flagWord_iff.1 ha).symm.trans (flagWord_iff.1 hb)
  cases a <;> cases b <;> first | rfl | exact absurd hsame (by decide)

theorem padded_environmentName_iff (p : Protocol) {s : Text} :
    Padded p.environmentName s ↔ trim s = p.environmentName :=
  padded_iff (by cases p <;> decide)

theorem Text.Numeral.bareEnds {s : Text} {n : Nat} (h : Numeral s n) : BareEnds isBlank s := by
  obtain ⟨digits, hs, hdigits⟩ := h
  have hbare : ∀ c ∈ digits, isBlank c = false := fun c hc =>
    isBlank_of_isDigit (hdigits.isDigit c hc)
  refine bareEnds_of_forall ?_
  rcases hs with rfl | rfl
  · exact hbare
  · exact List.forall_mem_cons.2 ⟨by decide, hbare⟩

theorem Propagator.name_injective : Function.Injective Propagator.name := by
  intro p q h
  cases p <;> cases q <;> first | rfl | exact absurd h (by decide)

theorem FirstUnknown.cons {names : List Text} {name : Text} (h : FirstUnknown names name)
    (p : Propagator) : FirstUnknown (p.name :: names) name := by
  obtain ⟨known, rest, rfl, hname⟩ := h
  exact ⟨p :: known, rest, rfl, hname⟩

theorem FirstUnknown.ne_map {names : List Text} {name : Text} (h : FirstUnknown names name)
    (formats : List Propagator) : names ≠ formats.map (·.name) := by
  obtain ⟨known, rest, rfl, hname⟩ := h
  intro hformats
  have hmem : name ∈ formats.map (·.name) := by
    rw [← hformats]
    exact List.mem_append_right _ List.mem_cons_self
  obtain ⟨p, -, hp⟩ := List.mem_map.1 hmem
  exact hname p hp

/-- A text denotes one value at most. -/
theorem Variable.Denotes.inj {v : Variable} {s : Text} {x y : v.Value} (hx : v.Denotes s x)
    (hy : v.Denotes s y) : x = y := by
  cases v with
  | disabled => exact Bool.not_inj (FlagWord.inj hx hy)
  | serverEnabled | preferForwardedScheme => exact FlagWord.inj hx hy
  | serviceName | endpoint => exact Eq.trans hx (Eq.symm hy)
  | requestHeaders | responseHeaders | knownMethods => exact Lists.inj hx hy
  | propagators =>
    -- No format is called `none`.
    have hnone : ∀ ps : List Propagator, ["none".toList] ≠ ps.map (·.name) := by
      intro ps h
      obtain ⟨p, -, hp⟩ := List.mem_map.1 (h ▸ List.mem_singleton_self "none".toList)
      cases p <;> exact absurd hp (by decide)
    rcases hx with ⟨hs, hx⟩ | hx <;> rcases hy with ⟨ht, hy⟩ | hy
    · rw [hx, hy]
    · exact absurd (hs.inj hy) (hnone _)
    · exact absurd (ht.inj hx) (hnone _)
    · exact (List.map_inj_right fun _ _ h => Propagator.name_injective h).1 (hx.inj hy)
  | exporters =>
    obtain ⟨names, hs, -, hlogs, hon⟩ := hx
    obtain ⟨names', hs', -, hlogs', hon'⟩ := hy
    obtain rfl := hs.inj hs'
    exact Prod.ext (Bool.eq_iff_iff.2 (hlogs.trans hlogs'.symm))
      (Bool.eq_iff_iff.2 (hon.trans hon'.symm))
  | protocol =>
    rcases hx with ⟨hs, hx⟩ | ⟨hs, hx⟩ <;> rcases hy with ⟨ht, hy⟩ | ⟨ht, hy⟩
    · rw [hx, hy]
    · have hgrpc := (padded_environmentName_iff .grpc).1 hs
      exact absurd (hgrpc.symm.trans ((padded_environmentName_iff .http).1 ht)) (by decide)
    · have hgrpc := (padded_environmentName_iff .grpc).1 ht
      exact absurd (hgrpc.symm.trans ((padded_environmentName_iff .http).1 hs)) (by decide)
    · rw [hx, hy]
  | timeout =>
    obtain ⟨s, m, hs, hm, -, hx⟩ := hx
    obtain ⟨t, n, ht, hn, -, hy⟩ := hy
    obtain rfl := ((padded_iff hm.bareEnds).1 hs).symm.trans ((padded_iff hn.bareEnds).1 ht)
    obtain rfl := hm.inj hn
    exact Duration.nanos_injective (hx.trans hy.symm)

namespace Configuration

/-! ## Reading a text -/

theorem flagOf?_eq_some_iff {s : Text} {value : Bool} :
    flagOf? s = some value ↔ FlagWord s value := by
  rw [flagWord_iff, flagOf?]
  by_cases ht : lower (trim s) = "true".toList
  · rw [if_pos ht, ht]
    cases value <;> decide
  · rw [if_neg ht]
    by_cases hf : lower (trim s) = "false".toList
    · rw [if_pos hf, hf]
      cases value <;> decide
    · rw [if_neg hf]
      cases value with
      | true => exact iff_of_false (by decide) ht
      | false => exact iff_of_false (by decide) hf

theorem protocolOf?_eq_some_iff {s : Text} {p : Protocol} :
    protocolOf? s = some p ↔ Variable.Denotes .protocol s p := by
  rw [protocolOf?, Protocol.all]
  constructor
  · intro h
    have hname : p.environmentName = trim s := by simpa using List.find?_some h
    have hs := (padded_environmentName_iff p).2 hname.symm
    cases p with
    | grpc => exact Or.inl ⟨hs, rfl⟩
    | http => exact Or.inr ⟨hs, rfl⟩
  · rintro (⟨hs, rfl⟩ | ⟨hs, rfl⟩)
    · rw [(padded_environmentName_iff .grpc).1 hs]
      decide
    · rw [(padded_environmentName_iff .http).1 hs]
      decide

theorem millisOf?_eq_some_iff {s : Text} {d : Duration} :
    millisOf? s = some d ↔ Variable.Denotes .timeout s d := by
  have hmillis : ∀ {n}, n < UInt64.size →
      (Duration.ofMillis (UInt64.ofNat n) = d ↔ d.nanos = n * 1000000) := by
    intro n hn
    have hnanos : (Duration.ofMillis (UInt64.ofNat n)).nanos = n * 1000000 :=
      congrArg (· * 1000000) (UInt64.toNat_ofNat_of_lt' hn)
    rw [← hnanos]
    exact ⟨fun h => h ▸ rfl, fun h => (Duration.nanos_injective h).symm⟩
  rw [millisOf?, readUInt64, Option.map_eq_some_iff]
  constructor
  · rintro ⟨n, hread, hd⟩
    obtain ⟨hs, hn⟩ := readNat_ten_eq_some_iff.1 hread
    exact ⟨trim s, n, padded_trim s, hs, hn, (hmillis hn).1 hd⟩
  · rintro ⟨numeral, n, hs, hnumeral, hn, hd⟩
    obtain rfl := (padded_iff hnumeral.bareEnds).1 hs
    exact ⟨n, readNat_ten_eq_some_iff.2 ⟨hnumeral, hn⟩, (hmillis hn).2 hd⟩

example : millisOf? " +250 ".toList = some (.ofMillis 250) := by decide

theorem ofName?_eq_some_iff {name : Text} {p : Propagator} :
    Propagator.ofName? name = some p ↔ name = p.name := by
  constructor
  · intro h
    rw [Propagator.ofName?] at h
    have hname := List.find?_some h
    exact (beq_iff_eq.1 hname).symm
  · rintro rfl
    cases p <;> decide

/-- Names are read as formats, up to the first one that is unknown. -/
theorem mapM_format {f : Text → Except Text Propagator}
    (hknown : ∀ p : Propagator, f p.name = .ok p)
    (hunknown : ∀ name, (∀ p : Propagator, p.name ≠ name) → f name = .error name)
    (names : List Text) :
    (∃ formats : List Propagator, names = formats.map (·.name) ∧ names.mapM f = .ok formats) ∨
      ∃ name, FirstUnknown names name ∧ names.mapM f = .error name := by
  induction names with
  | nil => exact Or.inl ⟨[], rfl, rfl⟩
  | cons name names ih =>
    by_cases hname : ∃ p : Propagator, p.name = name
    · obtain ⟨p, rfl⟩ := hname
      rcases ih with ⟨formats, hnames, hread⟩ | ⟨first, hfirst, hread⟩
      · refine Or.inl ⟨p :: formats, by rw [hnames, List.map_cons], ?_⟩
        rw [List.mapM_cons, hknown, hread]
        rfl
      · refine Or.inr ⟨first, hfirst.cons p, ?_⟩
        rw [List.mapM_cons, hknown, hread]
        rfl
    · have hnone : ∀ p : Propagator, p.name ≠ name := fun p hp => hname ⟨p, hp⟩
      refine Or.inr ⟨name, ⟨[], names, rfl, hnone⟩, ?_⟩
      rw [List.mapM_cons, hunknown name hnone]
      rfl

/-- Names are turned on up to the first one that is unknown. -/
theorem turnOn_eq (names : List Text) (e : ExporterSettings) :
    turnOn names e =
      ({ e with
          logging := e.logging || (exportersNamed (knownExporters names)).1,
          otlp := { e.otlp with
            enabled := e.otlp.enabled || (exportersNamed (knownExporters names)).2 } },
        names.all exporterNames.contains) := by
  simp only [knownExporters]
  induction names generalizing e with
  | nil => simp [turnOn, exportersNamed]
  | cons name names ih =>
    by_cases hname : exporterNames.contains name = true
    · rw [List.takeWhile_cons_of_pos hname, List.all_cons, hname, Bool.true_and]
      have hword : name = "otlp".toList ∨ name = "logging".toList ∨ name = "console".toList ∨
          name = "none".toList := by
        simpa [exporterNames] using hname
      rcases hword with rfl | rfl | rfl | rfl
      · rw [turnOn, if_pos rfl, ih]
        simp [exportersNamed]
      · rw [turnOn, if_neg (by decide), if_pos (by decide), ih]
        simp [exportersNamed]
      · rw [turnOn, if_neg (by decide), if_pos (by decide), ih]
        simp [exportersNamed]
      · rw [turnOn, if_neg (by decide), if_neg (by decide), if_pos rfl, ih]
        simp [exportersNamed]
    · have hne : ∀ word, exporterNames.contains word = true → name ≠ word := by
        rintro word hword rfl
        exact hname hword
      rw [List.takeWhile_cons_of_neg hname, List.all_cons, Bool.eq_false_iff.2 hname,
        Bool.false_and, turnOn, if_neg (hne _ (by decide)),
        if_neg (not_or.2 ⟨hne _ (by decide), hne _ (by decide)⟩), if_neg (hne _ (by decide))]
      simp [exportersNamed]

/-- A list of exporters sets what its names say up to the first unknown one, whatever was set. -/
theorem override_exporters (c : Configuration) (s : Text) :
    c.override s .exporters =
      (c.put .exporters (exportersNamed (knownExporters (items s))),
        if (items s).all exporterNames.contains then none
        else some (.environment .exporters s)) := by
  simp only [override, turnOn_eq, turnOff, Bool.false_or]
  rfl

theorem propagatorsOf_of_ne {s : Text} (hs : items s ≠ ["none".toList]) :
    (∃ formats : List Propagator, items s = formats.map (·.name) ∧ propagatorsOf s = .ok formats) ∨
      ∃ name, FirstUnknown (items s) name ∧ propagatorsOf s = .error name := by
  simp only [propagatorsOf, if_neg hs]
  refine mapM_format (fun p => ?_) (fun name hnone => ?_) (items s)
  · rw [ofName?_eq_some_iff.2 rfl]
  · cases hp : Propagator.ofName? name with
    | none => rfl
    | some p => exact absurd (ofName?_eq_some_iff.1 hp).symm (hnone p)

/-! ## Overriding one setting -/

/-- What overriding by a text may come to: what the text denotes is in the setting, or the text
denotes nothing. -/
inductive Follows (c : Configuration) (s : Text) (v : Variable) : Override → Prop
  | put {x : v.Value} (denotes : v.Denotes s x) : Follows c s v (c.put v x, none)
  | refused {d : Configuration} {error : ConfigurationError} (malformed : ∀ x, ¬ v.Denotes s x)
      (complains : v.Complains s error) : Follows c s v (d, some error)

theorem follows_overrideIf {α : Type} {c : Configuration} {v : Variable} {s : Text}
    {read : Option α} {put : α → Configuration} (value : α → v.Value)
    (hvalue : Function.Surjective value) (hput : ∀ a, put a = c.put v (value a))
    (hread : ∀ a, read = some a ↔ v.Denotes s (value a))
    (hcomplains : v.Complains s (.environment v s)) :
    c.Follows s v (overrideIf c v s read put) := by
  cases read with
  | none =>
    refine .refused (fun x hx => ?_) hcomplains
    obtain ⟨a, rfl⟩ := hvalue x
    cases (hread a).2 hx
  | some a =>
    rw [overrideIf, hput]
    exact .put ((hread a).1 rfl)

theorem follows_propagators (c : Configuration) (s : Text) :
    c.Follows s .propagators (c.override s .propagators) := by
  rw [override]
  by_cases hs : items s = ["none".toList]
  · rw [propagatorsOf, if_pos hs]
    have hdenotes : Variable.Denotes .propagators s [] := Or.inl ⟨lists_iff.2 hs, rfl⟩
    exact .put hdenotes
  · rcases propagatorsOf_of_ne hs with ⟨formats, hformats, hread⟩ | ⟨name, hname, hread⟩
    · rw [hread]
      have hdenotes : Variable.Denotes .propagators s formats := Or.inr (lists_iff.2 hformats)
      exact .put hdenotes
    · rw [hread]
      refine .refused ?_ ⟨_, name, lists_items s, hname, rfl⟩
      rintro formats (⟨hnone, -⟩ | hformats)
      · exact hs (lists_iff.1 hnone)
      · exact hname.ne_map formats (lists_iff.1 hformats)

theorem follows_exporters (c : Configuration) (s : Text) :
    c.Follows s .exporters (c.override s .exporters) := by
  rw [override_exporters]
  by_cases hs : (items s).all exporterNames.contains = true
  · have hknown : ∀ name ∈ items s, exporterNames.contains name = true := List.all_eq_true.1 hs
    rw [if_pos hs, knownExporters, List.takeWhile_eq_self_iff.2 hknown]
    have hdenotes : Variable.Denotes .exporters s (exportersNamed (items s)) :=
      ⟨_, lists_items s, fun name hname => List.contains_iff_mem.1 (hknown name hname), by simp,
        by simp⟩
    exact .put hdenotes
  · rw [if_neg hs]
    refine .refused ?_ rfl
    rintro x ⟨names, hnames, hall, -⟩
    obtain rfl := lists_iff.1 hnames
    exact hs (List.all_eq_true.2 fun name hname => List.contains_iff_mem.2 (hall name hname))

theorem follows_override (c : Configuration) (s : Text) (v : Variable) :
    c.Follows s v (c.override s v) := by
  cases v with
  | serviceName | endpoint => exact .put (x := _) rfl
  | requestHeaders | responseHeaders | knownMethods => exact .put (x := _) (lists_items s)
  | propagators => exact follows_propagators c s
  | exporters => exact follows_exporters c s
  | disabled =>
    refine follows_overrideIf not (fun on => ⟨! on, Bool.not_not on⟩) (fun _ => rfl)
      (fun a => ?_) rfl
    change _ ↔ FlagWord s (! ! a)
    rw [Bool.not_not]
    exact flagOf?_eq_some_iff
  | serverEnabled | preferForwardedScheme =>
    exact follows_overrideIf id Function.surjective_id (fun _ => rfl)
      (fun _ => flagOf?_eq_some_iff) rfl
  | protocol =>
    exact follows_overrideIf id Function.surjective_id (fun _ => rfl)
      (fun _ => protocolOf?_eq_some_iff) rfl
  | timeout =>
    exact follows_overrideIf id Function.surjective_id (fun _ => rfl)
      (fun _ => millisOf?_eq_some_iff) rfl

end Configuration

/-! ## Overriding by an environment -/

namespace Environment

/-- The variable has the text, which is not blank. -/
def Sets (e : Environment) (v : Variable) (s : Text) : Prop :=
  e v = some s ∧ ∃ c ∈ s, isBlank c = false

/-- A variable is unset or blank, or its text denotes something. -/
def WellFormed (e : Environment) (v : Variable) : Prop :=
  ∀ s, e.Sets v s → ∃ x, v.Denotes s x

/-- The error is what the first malformed one of some variables complains of. -/
def FirstError (e : Environment) (vs : List Variable) (error : ConfigurationError) : Prop :=
  ∃ earlier v later s, vs = earlier ++ v :: later ∧ (∀ u ∈ earlier, e.WellFormed u) ∧
    e.Sets v s ∧ (∀ x, ¬ v.Denotes s x) ∧ v.Complains s error

variable {e : Environment} {v : Variable} {s t : Text}

theorem filled?_eq_some_iff : e.filled? v = some s ↔ e.Sets v s := by
  rw [filled?, Option.filter_eq_some_iff, Sets, Bool.not_eq_true', not_blank_iff]

theorem filled?_eq_none_iff : e.filled? v = none ↔ ∀ s, ¬ e.Sets v s := by
  rw [Option.eq_none_iff_forall_ne_some]
  exact forall_congr' fun s => not_congr filled?_eq_some_iff

theorem Sets.inj (hs : e.Sets v s) (ht : e.Sets v t) : s = t :=
  Option.some.inj (hs.1.symm.trans ht.1)

theorem wellFormed_of_unset (hs : ∀ s, ¬ e.Sets v s) : e.WellFormed v :=
  fun s ht => absurd ht (hs s)

theorem wellFormed_of_denotes {x : v.Value} (hs : e.Sets v s) (hx : v.Denotes s x) :
    e.WellFormed v := by
  intro t ht
  obtain rfl := hs.inj ht
  exact ⟨x, hx⟩

theorem FirstError.cons {vs : List Variable} {error : ConfigurationError} (hv : e.WellFormed v)
    (h : e.FirstError vs error) : e.FirstError (v :: vs) error := by
  obtain ⟨earlier, u, later, s, rfl, hearlier, hu⟩ := h
  exact ⟨v :: earlier, u, later, s, rfl, List.forall_mem_cons.2 ⟨hv, hearlier⟩, hu⟩

end Environment

theorem Variable.mem_all (v : Variable) : v ∈ Variable.all := by
  cases v <;> decide

namespace Configuration

/-- The configuration has what the environment says in the settings it has texts for, and what the
first one had everywhere else. -/
structure Overridden (c : Configuration) (e : Environment) (d : Configuration) : Prop where
  governed : ∀ v s, e.Sets v s → v.Denotes s (d.setting v)
  kept : ∀ v, (∀ s, ¬ e.Sets v s) → d.setting v = c.setting v
  ungoverned : d.ungoverned = c.ungoverned

/-- Only one configuration is like that. -/
theorem Overridden.unique {c d d' : Configuration} {e : Environment} (h : c.Overridden e d)
    (h' : c.Overridden e d') : d = d' := by
  refine ext_setting (fun v => ?_) (h.ungoverned.trans h'.ungoverned.symm)
  by_cases hs : ∃ s, e.Sets v s
  · obtain ⟨s, hs⟩ := hs
    exact (h.governed v s hs).inj (h'.governed v s hs)
  · exact (h.kept v (not_exists.1 hs)).trans (h'.kept v (not_exists.1 hs)).symm

variable {e : Environment} {vs : List Variable} {c d : Configuration} {error : ConfigurationError}

theorem overrideAll_of_unset {v : Variable} (hs : ∀ s, ¬ e.Sets v s) :
    overrideAll e (v :: vs) c = overrideAll e vs c := by
  rw [overrideAll, Environment.filled?_eq_none_iff.2 hs]

/-- A text is overridden by first: it is refused, or the rest goes on with what it denotes. -/
theorem overrideAll_of_sets (vs : List Variable) (c : Configuration) {v : Variable} {s : Text}
    (hs : e.Sets v s) :
    (∃ x, v.Denotes s x ∧ overrideAll e (v :: vs) c = overrideAll e vs (c.put v x)) ∨
      ∃ d error, (∀ x, ¬ v.Denotes s x) ∧ v.Complains s error ∧
        overrideAll e (v :: vs) c = (d, some error) := by
  have hfollows := c.follows_override s v
  simp only [overrideAll, Environment.filled?_eq_some_iff.2 hs]
  generalize c.override s v = outcome at hfollows ⊢
  cases hfollows with
  | put hx => exact Or.inl ⟨_, hx, rfl⟩
  | refused hmalformed hcomplains => exact Or.inr ⟨_, _, hmalformed, hcomplains, rfl⟩

/-- What overriding by some variables makes of their settings and of the others. -/
theorem overrideAll_settles (hvs : vs.Nodup) (h : overrideAll e vs c = (d, none)) :
    (∀ v ∈ vs, ∀ s, e.Sets v s → v.Denotes s (d.setting v)) ∧
      (∀ v, (v ∈ vs → ∀ s, ¬ e.Sets v s) → d.setting v = c.setting v) ∧
      d.ungoverned = c.ungoverned := by
  induction vs generalizing c with
  | nil =>
    obtain rfl : c = d := congrArg Prod.fst h
    exact ⟨fun v hv => absurd hv List.not_mem_nil, fun _ _ => rfl, rfl⟩
  | cons v vs ih =>
    obtain ⟨hv, hvs⟩ := List.nodup_cons.1 hvs
    by_cases hset : ∃ s, e.Sets v s
    · obtain ⟨s, hs⟩ := hset
      rcases overrideAll_of_sets vs c hs with ⟨x, hx, hstep⟩ | ⟨_, _, -, -, hstep⟩
      · rw [hstep] at h
        obtain ⟨hgoverned, hkept, hrest⟩ := ih hvs h
        rw [ungoverned_put] at hrest
        refine ⟨List.forall_mem_cons.2 ⟨fun t ht => ?_, hgoverned⟩, fun u hu => ?_, hrest⟩
        · -- No later variable governs this setting.
          rw [hkept v fun hmem => absurd hmem hv, setting_put_self]
          obtain rfl := hs.inj ht
          exact hx
        · have hne : u ≠ v := by
            rintro rfl
            exact hu List.mem_cons_self s hs
          rw [hkept u fun hmem => hu (List.mem_cons_of_mem v hmem), setting_put_of_ne c hne x]
      · rw [hstep] at h
        cases congrArg Prod.snd h
    · rw [overrideAll_of_unset (not_exists.1 hset)] at h
      obtain ⟨hgoverned, hkept, hrest⟩ := ih hvs h
      refine ⟨List.forall_mem_cons.2 ⟨fun s hs => absurd ⟨s, hs⟩ hset, hgoverned⟩, fun u hu => ?_,
        hrest⟩
      exact hkept u fun hmem => hu (List.mem_cons_of_mem v hmem)

/-- What overriding by some variables stops at. -/
theorem overrideAll_error (h : overrideAll e vs c = (d, some error)) : e.FirstError vs error := by
  induction vs generalizing c with
  | nil => cases congrArg Prod.snd h
  | cons v vs ih =>
    by_cases hset : ∃ s, e.Sets v s
    · obtain ⟨s, hs⟩ := hset
      rcases overrideAll_of_sets vs c hs with
        ⟨x, hx, hstep⟩ | ⟨d', failed, hmalformed, hcomplains, hstep⟩
      · rw [hstep] at h
        exact (ih h).cons (Environment.wellFormed_of_denotes hs hx)
      · rw [hstep] at h
        obtain rfl : failed = error := Option.some.inj (congrArg Prod.snd h)
        exact ⟨[], v, vs, s, rfl, fun u hu => absurd hu List.not_mem_nil, hs, hmalformed,
          hcomplains⟩
    · rw [overrideAll_of_unset (not_exists.1 hset)] at h
      exact (ih h).cons (Environment.wellFormed_of_unset (not_exists.1 hset))

theorem overridden_of_apply (h : c.apply e = (d, none)) : c.Overridden e d := by
  obtain ⟨hgoverned, hkept, hrest⟩ := overrideAll_settles (by decide) h
  exact ⟨fun v => hgoverned v v.mem_all, fun v hv => hkept v fun _ => hv, hrest⟩

/-- **What the environment says.** It is taken exactly if every variable is well formed. Then the
configuration has in every setting what the text for it denotes, or what it had if there is no text.
Otherwise the error is that of the first variable whose text denotes nothing. -/
theorem apply_meaning (c : Configuration) (e : Environment) :
    ((c.apply e).2 = none ↔ ∀ v, e.WellFormed v) ∧
      ((c.apply e).2 = none → ∀ d, c.Overridden e d ↔ d = (c.apply e).1) ∧
      ∀ error, (c.apply e).2 = some error → e.FirstError Variable.all error := by
  have herror : ∀ error, (c.apply e).2 = some error → e.FirstError Variable.all error :=
    fun error h => overrideAll_error (Prod.ext rfl h)
  have hnone : (c.apply e).2 = none → c.Overridden e (c.apply e).1 := fun h =>
    overridden_of_apply (Prod.ext rfl h)
  refine ⟨⟨fun h v s hs => ⟨_, (hnone h).governed v s hs⟩, fun h => ?_⟩, fun h d => ?_, herror⟩
  · rw [Option.eq_none_iff_forall_ne_some]
    intro error hfailed
    obtain ⟨-, v, -, s, -, -, hs, hmalformed, -⟩ := herror error hfailed
    obtain ⟨x, hx⟩ := h v s hs
    exact hmalformed x hx
  · exact ⟨fun hd => hd.unique (hnone h), fun hd => hd ▸ hnone h⟩

/-- A time limit with a sign in front is taken, and one with a unit is what the error is about. -/
theorem apply_meaning_timeout :
    let limit (s : String) : Environment := fun v => if v = .timeout then some s.toList else none
    (∃ d, Overridden {} (limit " +250 ") d ∧ d.setting .timeout = Duration.ofMillis 250) ∧
      (limit "250ms").FirstError Variable.all (.environment .timeout "250ms".toList) := by
  intro limit
  have htaken : (apply {} (limit " +250 ")).2 = none := by decide
  have hrefused : (apply {} (limit "250ms")).2 = some (.environment .timeout "250ms".toList) := by
    decide
  refine ⟨⟨_, ((apply_meaning {} (limit " +250 ")).2.1 htaken _).2 rfl, ?_⟩,
    (apply_meaning {} (limit "250ms")).2.2 _ hrefused⟩
  rfl

end Configuration

end ServerTelemetry
