import ServerTelemetry.Http.Message

/-!
# How messages are built

A request is built if its method, its target and all its headers can be (`buildRequest_eq_ok_iff`).
The headers come one from each field, in their order and named in lower case (`buildHeaders_insert`,
`name_of_buildHeaders`), so a field more is seen under its own name alone.
-/

namespace ServerTelemetry.Http

open Text

theorem buildRequest_eq_ok_iff {method uri body : Text} {version : Version}
    {fields : List (Text × List UInt8)} {connection : Option Connection}
    {route : Option RouteHolder} {r : Request} :
    buildRequest method uri version fields body connection route = .ok r ↔
      isToken method = true ∧ ∃ target headers, Uri.read uri = .ok target ∧
        buildHeaders fields = .ok headers ∧
        r = ⟨method, target, version, headers, body, connection, route⟩ := by
  unfold buildRequest
  cases isToken method with
  | false =>
    simp only [Bool.not_false, ↓reduceIte, Bool.false_eq_true, false_and, iff_false]
    exact fun h => by cases h
  | true =>
    simp only [Bool.not_true, Bool.false_eq_true, ↓reduceIte, true_and]
    cases htarget : Uri.read uri with
    | error e =>
      constructor
      · intro h
        cases h
      · rintro ⟨target, headers, ht, -⟩
        cases ht
    | ok target =>
      cases hheaders : buildHeaders fields with
      | error e =>
        constructor
        · intro h
          cases h
        · rintro ⟨target, headers, -, hh, -⟩
          cases hh
      | ok headers =>
        constructor
        · intro h
          cases h
          exact ⟨target, headers, rfl, rfl, rfl⟩
        · rintro ⟨target, headers, ht, hh, rfl⟩
          cases ht
          cases hh
          rfl

theorem buildHeaders_cons_eq_ok_iff {field : Text × List UInt8} {fields : List (Text × List UInt8)}
    {headers : Headers} : buildHeaders (field :: fields) = .ok headers ↔
      ∃ header rest, buildHeader field.1 field.2 = .ok header ∧ buildHeaders fields = .ok rest ∧
        headers = header :: rest := by
  have hcons : buildHeaders (field :: fields) =
      (buildHeader field.1 field.2).bind fun header =>
        (buildHeaders fields).bind fun rest => .ok (header :: rest) := List.mapM_cons
  rw [hcons]
  cases buildHeader field.1 field.2 with
  | error e => simp [Except.bind]
  | ok header =>
    cases buildHeaders fields with
    | error e => simp [Except.bind]
    | ok rest => simp [Except.bind, eq_comm]

/-- A field more is a header more, in the same place. -/
theorem buildHeaders_insert {before after : List (Text × List UInt8)} {headers : Headers}
    (h : buildHeaders (before ++ after) = .ok headers) {name : Text} {value : List UInt8}
    {header : Header} (hfield : buildHeader name value = .ok header) :
    ∃ a b, headers = a ++ b ∧
      buildHeaders (before ++ (name, value) :: after) = .ok (a ++ header :: b) := by
  induction before generalizing headers with
  | nil =>
    refine ⟨[], headers, rfl, ?_⟩
    exact buildHeaders_cons_eq_ok_iff.2 ⟨header, headers, hfield, h, rfl⟩
  | cons first before ih =>
    obtain ⟨x, rest, hx, hrest, rfl⟩ := buildHeaders_cons_eq_ok_iff.1 h
    obtain ⟨a, b, rfl, hinsert⟩ := ih hrest
    exact ⟨x :: a, b, rfl, buildHeaders_cons_eq_ok_iff.2 ⟨x, _, hx, hinsert, rfl⟩⟩

theorem name_of_buildHeaders {fields : List (Text × List UInt8)} {headers : Headers}
    (h : buildHeaders fields = .ok headers) :
    headers.map (·.name) = fields.map fun field => lower field.1 := by
  induction fields generalizing headers with
  | nil =>
    cases h
    rfl
  | cons field fields ih =>
    obtain ⟨header, rest, hheader, hrest, rfl⟩ := buildHeaders_cons_eq_ok_iff.1 h
    have hname : header.name = lower field.1 := by
      unfold buildHeader at hheader
      split at hheader
      · cases hheader
      · split at hheader
        · cases hheader
        · cases hheader
          rfl
    rw [List.map_cons, List.map_cons, hname, ih hrest]

/-- No header has a name that no field has in any letters. -/
theorem name_ne_of_buildHeaders {fields : List (Text × List UInt8)} {headers : Headers} {name : Text}
    (h : buildHeaders fields = .ok headers)
    (hname : ∀ field ∈ fields, sameLetters field.1 name = false) :
    ∀ header ∈ headers, header.name ≠ lower name := by
  intro header hmem he
  have hnames : lower name ∈ headers.map (·.name) := he ▸ List.mem_map_of_mem hmem
  rw [name_of_buildHeaders h] at hnames
  obtain ⟨field, hfield, hlower⟩ := List.mem_map.1 hnames
  have hsame : sameLetters field.1 name = true := sameLetters_iff.2 hlower
  rw [hname field hfield] at hsame
  cases hsame

namespace Headers

variable {a b : Headers} {header : Header} {name : Text}

/-- A field is seen only under its own name. -/
theorem lines_insert_of_ne (h : header.name ≠ lower name) :
    lines (a ++ header :: b) name = lines (a ++ b) name := by
  simp [lines, h]

/-- A field is the only one with its name where no other has it. -/
theorem lines_insert_self {value : Text} (hname : header.name = lower name)
    (hvalue : readable? header.value = some value) (hnone : ∀ h ∈ a ++ b, h.name ≠ header.name) :
    lines (a ++ header :: b) name = [value] ∧ lines (a ++ b) name = [] := by
  have hfilter : ∀ c : Headers, c ⊆ a ++ b → (c.filter fun h => h.name == lower name) = [] := by
    intro c hc
    refine List.filter_eq_nil_iff.2 fun h hh => ?_
    rw [← hname, beq_iff_eq]
    exact hnone h (hc hh)
  have ha := hfilter a (List.subset_append_left ..)
  have hb := hfilter b (List.subset_append_right ..)
  simp [lines, List.filter_append, ha, hb, hname, hvalue]

end Headers

end ServerTelemetry.Http
