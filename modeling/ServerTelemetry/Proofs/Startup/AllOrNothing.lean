import ServerTelemetry.Proofs.Wiring.Parts
import ServerTelemetry.Startup

/-!
# Starting is all or nothing

One attempt to start telemetry either fails and leaves the process as it was, or finds no log there
and installs what its configuration asks for (`Startup.start_cases`). As it installs a log whenever it
succeeds, no later attempt in the process does (`Attempt.fails_of_log`).
-/

namespace ServerTelemetry

namespace Startup

/-- Nothing stands in the way of a start: no log is installed, all parts can be set up, and the log
filter is well formed. -/
structure Ready (features : Exporter → Bool) (vars : Text → Option Text) (p : Installation)
    (c : Configuration) (w : Wiring) (filter : LogFilter) : Prop where
  log : p.log = none
  wiring : (Wiring.ofConfiguration features vars c).2 = .ok w
  filter : LogFilter.read (filterText vars c.logging) = .ok filter

/-- What is installed when a start with a configuration has succeeded, in a process with some
variables that had `p` installed before. -/
structure Installs (vars : Text → Option Text) (c : Configuration) (p q : Installation) : Prop where
  log : ∃ filter, LogFilter.read (filterText vars c.logging) = .ok filter ∧
    q.log = some ⟨filter, c.logging.format⟩
  on : c.telemetry.enabled = true → q.propagators = c.telemetry.propagators ∧
    ∃ provider, q.provider = some provider ∧ provider.Serves vars c.telemetry
  off : c.telemetry.enabled = false → q.propagators = p.propagators ∧ q.provider = p.provider

variable {features : Exporter → Bool} {vars : Text → Option Text} {p : Installation}
  {c : Configuration}

theorem Ready.installs {w : Wiring} {filter : LogFilter} (h : Ready features vars p c w filter) :
    Installs vars c p
      (Installation.installTelemetry { p with log := some ⟨filter, c.logging.format⟩ } w) := by
  have hserves := Wiring.serves_of_ok h.wiring
  rw [Installation.installTelemetry, hserves.enabled_eq]
  cases henabled : c.telemetry.enabled with
  | true =>
    refine ⟨⟨filter, h.filter, rfl⟩, fun _ => hserves.on henabled, fun hoff => ?_⟩
    cases henabled.symm.trans hoff
  | false =>
    refine ⟨⟨filter, h.filter, rfl⟩, fun hon => ?_, fun _ => ⟨rfl, rfl⟩⟩
    cases henabled.symm.trans hon

/-- **A start installs all or nothing.** It succeeds if nothing stands in its way. -/
theorem start_cases (features : Exporter → Bool) (vars : Text → Option Text) (p : Installation)
    (c : Configuration) :
    (∃ w filter, Ready features vars p c w filter ∧
      (start features vars p c).result = .ok ⟨w.provider, w.layer⟩ ∧
      Installs vars c p (start features vars p c).process) ∨
    ∃ error, (∀ w filter, ¬ Ready features vars p c w filter) ∧
      (start features vars p c).result = .error error ∧
      (start features vars p c).process = p := by
  -- The cases are the ways to fail, in the order in which they are met; the log comes last.
  cases hwiring : (Wiring.ofConfiguration features vars c).2 with
  | error error =>
    refine Or.inr ⟨.configuration error, fun _ _ h => ?_, ?_, ?_⟩
    · cases hwiring.symm.trans h.wiring
    · simp only [start, hwiring]
    · simp only [start, hwiring]
  | ok w =>
    cases hfilter : LogFilter.read (filterText vars c.logging) with
    | error error =>
      refine Or.inr ⟨.filter error, fun _ _ h => ?_, ?_, ?_⟩
      · cases hfilter.symm.trans h.filter
      · simp only [start, hwiring, hfilter]
      · simp only [start, hwiring, hfilter]
    | ok filter =>
      cases hlog : p.log with
      | some log =>
        have hrefused := Installation.installLog?_of_some hlog
        refine Or.inr ⟨.installed, fun _ _ h => ?_, ?_, ?_⟩
        · cases hlog.symm.trans h.log
        · simp only [start, hwiring, hfilter, hrefused]
        · simp only [start, hwiring, hfilter, hrefused]
      | none =>
        have hready : Ready features vars p c w filter := ⟨hlog, hwiring, hfilter⟩
        have hinstalls := hready.installs
        have htaken := Installation.installLog?_of_none hlog
        refine Or.inl ⟨w, filter, hready, ?_, ?_⟩
        · simp only [start, hwiring, hfilter, htaken]
        · simp only [start, hwiring, hfilter, htaken, hinstalls]

namespace Attempt

/-! ## One attempt -/

/-- The configuration that an attempt comes with or finds. -/
def configuration (a : Attempt) : Except ConfigurationError Configuration :=
  match a.source with
  | .given c => .ok c
  | .found path => Startup.configuration a.vars a.read path

theorem start_of_configuration {a : Attempt} (h : a.configuration = .ok c) (p : Installation) :
    a.start features p = Startup.start features a.vars p c := by
  obtain ⟨vars, read, source⟩ := a
  cases source with
  | given d =>
    obtain rfl : d = c := Except.ok.inj h
    rfl
  | found path =>
    have hfound : Startup.configuration vars read path = .ok c := h
    simp only [Attempt.start, startFrom, hfound]

theorem start_of_no_configuration {a : Attempt} {error : ConfigurationError}
    (h : a.configuration = .error error) (p : Installation) :
    a.start features p = ⟨p, [], .error (.configuration error)⟩ := by
  obtain ⟨vars, read, source⟩ := a
  cases source with
  | given d => cases h
  | found path =>
    have hfound : Startup.configuration vars read path = .error error := h
    simp only [Attempt.start, startFrom, hfound]

/-- **An attempt installs all or nothing.** It succeeds if there is a configuration and nothing stands
in the way of a start with it. -/
theorem start_cases (features : Exporter → Bool) (a : Attempt) (p : Installation) :
    ((a.start features p).succeeded = true ∧ ∃ c w filter, a.configuration = .ok c ∧
      Ready features a.vars p c w filter ∧ Installs a.vars c p (a.start features p).process) ∨
    ((a.start features p).succeeded = false ∧ (a.start features p).process = p ∧
      ∀ c w filter, a.configuration = .ok c → ¬ Ready features a.vars p c w filter) := by
  cases hc : a.configuration with
  | error error =>
    rw [start_of_no_configuration hc]
    exact Or.inr ⟨rfl, rfl, fun _ _ _ h => nomatch h⟩
  | ok c =>
    rw [start_of_configuration hc]
    rcases Startup.start_cases features a.vars p c with
      ⟨w, filter, hready, hresult, hinstalls⟩ | ⟨error, hnot, hresult, hprocess⟩
    · rw [Start.succeeded, hresult]
      exact Or.inl ⟨rfl, c, w, filter, rfl, hready, hinstalls⟩
    · rw [Start.succeeded, hresult]
      refine Or.inr ⟨rfl, hprocess, fun d w filter hd => ?_⟩
      obtain rfl := Except.ok.inj hd
      exact hnot w filter

/-- No attempt succeeds once there is a log. -/
theorem fails_of_log (features : Exporter → Bool) (a : Attempt) {p : Installation}
    (h : p.log.isSome) :
    (a.start features p).succeeded = false ∧ (a.start features p).process = p := by
  rcases a.start_cases features p with ⟨-, c, w, filter, -, hready, -⟩ | ⟨hfails, hprocess, -⟩
  · rw [hready.log] at h
    cases h
  · exact ⟨hfails, hprocess⟩

/-- A log is installed by an attempt that succeeds. -/
theorem log_of_succeeded {a : Attempt} (h : (a.start features p).succeeded = true) :
    (a.start features p).process.log.isSome := by
  rcases a.start_cases features p with ⟨-, c, w, filter, -, -, hinstalls⟩ | ⟨hfails, -, -⟩
  · obtain ⟨filter, -, hlog⟩ := hinstalls.log
    rw [hlog]
    rfl
  · cases hfails.symm.trans h

/-! ## Attempts one after another -/

theorem after_append (features : Exporter → Bool) (p : Installation) (as bs : List Attempt) :
    after features p (as ++ bs) = after features (after features p as) bs :=
  List.foldl_append

theorem run_append (features : Exporter → Bool) (p : Installation) (as bs : List Attempt) :
    run features p (as ++ bs) = run features p as ++ run features (after features p as) bs := by
  induction as generalizing p with
  | nil => rfl
  | cons a as ih => exact congrArg _ (ih _)

theorem run_length (features : Exporter → Bool) (p : Installation) (as : List Attempt) :
    (run features p as).length = as.length := by
  induction as generalizing p with
  | nil => rfl
  | cons a as ih => exact congrArg (· + 1) (ih _)

/-- A process that has a log stays as it is. -/
theorem after_of_log {p : Installation} (h : p.log.isSome) (as : List Attempt) :
    after features p as = p := by
  induction as with
  | nil => rfl
  | cons a as ih =>
    change after features (a.start features p).process as = p
    rw [(a.fails_of_log features h).2, ih]

/-- Attempts leave a process as it is, or with a log. -/
theorem after_cases (features : Exporter → Bool) (p : Installation) (as : List Attempt) :
    after features p as = p ∨ (after features p as).log.isSome := by
  induction as with
  | nil => exact Or.inl rfl
  | cons a as ih =>
    change after features (a.start features p).process as = p ∨
      (after features (a.start features p).process as).log.isSome
    cases hs : (a.start features p).succeeded with
    | true =>
      rw [after_of_log (log_of_succeeded hs)]
      exact Or.inr (log_of_succeeded hs)
    | false =>
      rcases a.start_cases features p with ⟨hsucceeds, -⟩ | ⟨-, hprocess, -⟩
      · cases hs.symm.trans hsucceeds
      · rw [hprocess]
        exact ih

theorem not_succeeded_of_log (features : Exporter → Bool) {p : Installation} (h : p.log.isSome)
    (as : List Attempt) : ∀ s ∈ run features p as, s.succeeded = false := by
  induction as with
  | nil => exact fun s hs => nomatch hs
  | cons a as ih =>
    obtain ⟨hfails, hprocess⟩ := a.fails_of_log features h
    rw [run, hprocess]
    exact List.forall_mem_cons.2 ⟨hfails, ih⟩

/-- Of several attempts in one process one succeeds at most. -/
theorem succeeded_le_one (features : Exporter → Bool) (p : Installation) (as : List Attempt) :
    (run features p as).countP Start.succeeded ≤ 1 := by
  induction as generalizing p with
  | nil => exact Nat.zero_le 1
  | cons a as ih =>
    rw [run, List.countP_cons]
    cases hs : (a.start features p).succeeded with
    | true =>
      have hrest := not_succeeded_of_log features (log_of_succeeded hs) as
      rw [List.countP_eq_zero.2 fun s hmem => Bool.eq_false_iff.1 (hrest s hmem)]
      exact Nat.le_refl 1
    | false => exact ih _

/-- **Starting telemetry is all or nothing**, whatever is attempted in one process and whatever was
installed there at first. At most one attempt succeeds. An attempt succeeds exactly if it comes to a
configuration and finds nothing in its way, and leaves the process as it was if it fails. When one
succeeds nothing has changed in the process before, and nothing will afterwards: the log is the one of
its configuration, and so are the propagation formats and the provider if that has telemetry on; if
not, these are still what they were at first. -/
theorem start_all_or_nothing (features : Exporter → Bool) (p : Installation)
    (before : List Attempt) (a : Attempt) (later : List Attempt) :
    let attempts := before ++ a :: later
    let process := after features p before
    let start := a.start features process
    (run features p attempts).countP Start.succeeded ≤ 1 ∧
    (run features p attempts)[before.length]? = some start ∧
    (start.succeeded = true ↔ ∃ c w filter, a.configuration = .ok c ∧
      Ready features a.vars process c w filter) ∧
    (start.succeeded = false → start.process = process) ∧
    (start.succeeded = true → process = p ∧ after features p attempts = start.process ∧
      ∃ c, a.configuration = .ok c ∧ Installs a.vars c process start.process) := by
  intro attempts process start
  have hafter : after features p attempts = after features start.process later :=
    after_append features p before (a :: later)
  refine ⟨succeeded_le_one features p attempts, ?_, ?_⟩
  · rw [run_append, List.getElem?_append_right (Nat.le_of_eq (run_length ..)), run_length,
      Nat.sub_self]
    rfl
  · rcases a.start_cases features process with
      ⟨hsucceeds, c, w, filter, hc, hready, hinstalls⟩ | ⟨hfails, hprocess, hnot⟩
    -- It found no log, so nothing before it has succeeded.
    · have hfirst : process = p := by
        rcases after_cases features p before with hsame | hlog
        · exact hsame
        · rw [hready.log] at hlog
          cases hlog
      refine ⟨⟨fun _ => ⟨c, w, filter, hc, hready⟩, fun _ => hsucceeds⟩, fun hfails => ?_,
        fun _ => ⟨hfirst, ?_, c, hc, hinstalls⟩⟩
      · cases hsucceeds.symm.trans hfails
      · rw [hafter, after_of_log (log_of_succeeded hsucceeds)]
    · refine ⟨⟨fun hsucceeds => ?_, fun ⟨c, w, filter, hc, hready⟩ => ?_⟩, fun _ => hprocess,
        fun hsucceeds => ?_⟩
      · cases hfails.symm.trans hsucceeds
      · exact absurd hready (hnot c w filter hc)
      · cases hfails.symm.trans hsucceeds

example :
    let missing : Attempt := ⟨fun _ => none, fun _ => .error .missing, .found (some "a.yaml".toList)⟩
    let plain : Attempt := ⟨fun _ => none, fun _ => .error .missing, .given {}⟩
    (run (fun _ => true) {} [missing, plain, plain]).map Start.succeeded = [false, true, false] := by
  decide

end Attempt

end Startup

end ServerTelemetry
