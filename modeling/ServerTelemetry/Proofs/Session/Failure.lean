import ServerTelemetry.Proofs.Session.Keys

/-!
# Failures on reported spans

A failure shows twice on a span, in its status and as the kind of error among its attributes. Both
follow from how the call ended: from the status code of a response, or from there being an error in
place of one (`failure_of_reported`). The status is always set, but a span keeps a limited number of
attributes, and those of the outcome come last. So the two agree if the limit is not reached before the
kind of error, and if it is the kind is missing (`full_span_without_errorType`). Captured response
headers come behind both attributes and have other names, so they change neither.
-/

namespace ServerTelemetry

open Text

/-! ## What is recorded under a name -/

namespace Attribute

/-- The attributes that are shown under the name of a key. -/
def under (key : AttributeKey) (attributes : List Attribute) : List Attribute :=
  attributes.filter fun a => a.key.name = key.name

theorem under_append (key : AttributeKey) (a b : List Attribute) :
    under key (a ++ b) = under key a ++ under key b :=
  List.filter_append ..

theorem under_take_self {key : AttributeKey} {attributes : List Attribute}
    (h : ∀ a ∈ attributes, a.key = key) (n : Nat) :
    under key (attributes.take n) = attributes.take n := by
  refine List.filter_eq_self.2 fun a ha => ?_
  rw [h a (List.mem_of_mem_take ha), decide_eq_true_eq]

theorem under_take_other {key : AttributeKey} {attributes : List Attribute}
    (h : ∀ a ∈ attributes, a.key ≠ key) (n : Nat) : under key (attributes.take n) = [] := by
  refine List.filter_eq_nil_iff.2 fun a ha => ?_
  rw [decide_eq_true_eq]
  exact fun hname => h a (List.mem_of_mem_take ha) (AttributeKey.name_injective hname)

theorem length_number?_le (key : AttributeKey) (value : Option Nat) :
    (number? key value).length ≤ 1 := by
  cases value <;> simp [number?]

/-- Something is shown under a name if there is an attribute with the name. -/
theorem under_ne_nil_iff (key : AttributeKey) (attributes : List Attribute) :
    under key attributes ≠ [] ↔ ∃ a ∈ attributes, a.key.name = key.name := by
  unfold under
  simp

end Attribute

namespace Extractor

open Attribute

/-- What is recorded of a request names neither a status code nor a kind of error. -/
theorem key_of_mem_onStart (e : Extractor) {r : RequestFacts} (hr : r.route = none) {a : Attribute}
    (ha : a ∈ e.onStart r) : a.key ≠ .responseStatus ∧ a.key ≠ .errorType := by
  have hkey : a.key ∈ startKeys ++ e.requestHeaders.map .requestHeader :=
    (e.keys_onStart hr).subset (List.mem_map.2 ⟨a, ha, rfl⟩)
  rcases List.mem_append.1 hkey with hstart | hheader
  · have hapart : ∀ key ∈ startKeys, key ≠ .responseStatus ∧ key ≠ .errorType := by decide
    exact hapart a.key hstart
  · obtain ⟨name, -, hname⟩ := List.mem_map.1 hheader
    rw [← hname]
    exact ⟨AttributeKey.noConfusion, AttributeKey.noConfusion⟩

/-- The status code and the kind of error come first of what is recorded of an outcome, and nothing
behind them has their names. -/
theorem onEnd_parts (e : Extractor) (response : Option ResponseFacts) (error route : Option Text) :
    ∃ more, e.onEnd response error route =
        number? .responseStatus (response.bind (·.status)) ++
          (text? .errorType (errorType? (response.bind (·.status)) error) ++ more) ∧
      ∀ a ∈ more, a.key ≠ .responseStatus ∧ a.key ≠ .errorType := by
  refine ⟨_, by simp only [onEnd, List.append_assoc]; rfl, fun a ha => ?_⟩
  rcases List.mem_append.1 ha with hheader | hroute
  · obtain ⟨response, -, hheader⟩ := List.mem_flatMap.1 hheader
    obtain ⟨name, -, hname⟩ := List.mem_flatMap.1 hheader
    rw [key_of_mem_texts hname]
    exact ⟨AttributeKey.noConfusion, AttributeKey.noConfusion⟩
  · rw [key_of_mem_text? hroute]
    exact ⟨AttributeKey.noConfusion, AttributeKey.noConfusion⟩

/-- What is kept of the status code and of the kind of error when no more than `limit` attributes
are. -/
theorem under_take (e : Extractor) {r : RequestFacts} (hr : r.route = none)
    (response : Option ResponseFacts) (error route : Option Text) (limit : Nat) :
    let room := limit - (e.onStart r).length
    let code := number? .responseStatus (response.bind (·.status))
    let kind := text? .errorType (errorType? (response.bind (·.status)) error)
    let kept := (e.onStart r ++ e.onEnd response error route).take limit
    under .responseStatus kept = code.take room ∧
      under .errorType kept = kind.take (room - code.length) := by
  intro room code kind kept
  obtain ⟨more, hend, hmore⟩ := e.onEnd_parts response error route
  have hkept : kept = (e.onStart r).take limit ++
      (code.take room ++ (kind.take (room - code.length) ++
        more.take (room - code.length - kind.length))) := by
    unfold kept
    rw [hend, List.take_append, List.take_append, List.take_append]
  have hcode : ∀ a ∈ code, a.key = .responseStatus := fun _ => key_of_mem_number?
  have hkind : ∀ a ∈ kind, a.key = .errorType := fun _ => key_of_mem_text?
  refine ⟨?_, ?_⟩
  · rw [hkept, under_append, under_append, under_append,
      under_take_other fun a ha => (e.key_of_mem_onStart hr ha).1, under_take_self hcode,
      under_take_other fun a ha => by rw [hkind a ha]; exact AttributeKey.noConfusion,
      under_take_other fun a ha => (hmore a ha).1]
    simp
  · rw [hkept, under_append, under_append, under_append,
      under_take_other fun a ha => (e.key_of_mem_onStart hr ha).2,
      under_take_other fun a ha => by rw [hcode a ha]; exact AttributeKey.noConfusion,
      under_take_self hkind, under_take_other fun a ha => (hmore a ha).2]
    simp

end Extractor

/-! ## The two signs of a failure -/

/-- **The status and the kind of error tell the same calls failures.** -/
theorem OpenSpan.status_error_iff (final : Option Outcome) :
    (∃ description, OpenSpan.status final = .error description) ↔
      Extractor.errorType? ((responseOf final).bind (·.status)) (errorOf final) ≠ none := by
  cases final with
  | none => simp [OpenSpan.status, responseOf, errorOf, Extractor.errorType?]
  | some outcome =>
    cases outcome with
    | failure error =>
      simp [OpenSpan.status, Status.ofOutcome, responseOf, errorOf, Extractor.errorType?]
    | response response =>
      by_cases hfailed : 500 ≤ response.status
      · simp [OpenSpan.status, Status.ofOutcome, responseOf, Http.Response.facts,
          Extractor.errorType?, hfailed]
      · simp [OpenSpan.status, Status.ofOutcome, responseOf, errorOf, Http.Response.facts,
          Extractor.errorType?, hfailed]

/-- A span tells how its call ended: in its status, and in its status code and kind of error as far as
there is room for them behind the `taken` attributes it had before. -/
structure Span.Tells (s : Span) (final : Option Outcome) (limit taken : Nat) : Prop where
  code_of_response : ∀ response, final = some (.response response) →
    Attribute.under .responseStatus s.attributes =
      [⟨.responseStatus, .number response.status⟩].take (limit - taken)
  failed_response : ∀ response, final = some (.response response) → 500 ≤ response.status →
    s.status = .error [] ∧ Attribute.under .errorType s.attributes =
      [⟨.errorType, .text (decimal response.status)⟩].take (limit - taken - 1)
  handled_response : ∀ response, final = some (.response response) → response.status < 500 →
    s.status = .unset ∧ Attribute.under .errorType s.attributes = []
  failure : ∀ error, final = some (.failure error) →
    s.status = .error error ∧ Attribute.under .responseStatus s.attributes = [] ∧
      Attribute.under .errorType s.attributes =
        [⟨.errorType, .text "_OTHER".toList⟩].take (limit - taken)
  dropped : final = none → s.status = .unset ∧
    Attribute.under .responseStatus s.attributes = [] ∧ Attribute.under .errorType s.attributes = []
  /-- Whatever has a kind of error has failed. -/
  error_of_kind : (∃ a ∈ s.attributes, a.key.name = "error.type".toList) →
    ∃ description, s.status = .error description
  /-- Whatever has failed has a kind of error, unless the limit is reached before it. -/
  kind_of_error : taken + (Attribute.under .responseStatus s.attributes).length < limit →
    (∃ description, s.status = .error description) →
    ∃ a ∈ s.attributes, a.key.name = "error.type".toList

/-- A span tells how its call ended if it was opened for a request without a route. -/
theorem OpenSpan.tells (x : OpenSpan) {r : RequestFacts} (hr : r.route = none)
    (hattributes : x.attributes = x.extractor.onStart r) (holder : RouteHolder)
    (final : Option Outcome) :
    (x.report holder final).Tells final x.attributeLimit x.attributes.length := by
  have hkept : (x.report holder final).attributes = (x.extractor.onStart r ++
      x.extractor.onEnd (responseOf final) (errorOf final) holder.route).take x.attributeLimit := by
    unfold report
    rw [endAttributes_eq, hattributes]
  obtain ⟨hcode, hkind⟩ := x.extractor.under_take hr (responseOf final) (errorOf final)
    holder.route x.attributeLimit
  rw [← hkept, ← hattributes] at hcode hkind
  have hshown := Attribute.under_ne_nil_iff .errorType (x.report holder final).attributes
  have hstatus := status_error_iff final
  constructor
  case code_of_response =>
    rintro response rfl
    exact hcode
  case failed_response =>
    rintro response rfl hfailed
    refine ⟨if_pos hfailed, hkind.trans ?_⟩
    simp [responseOf, Http.Response.facts, Extractor.errorType?, hfailed, Attribute.text?,
      Attribute.number?]
  case handled_response =>
    rintro response rfl hfine
    refine ⟨if_neg (Nat.not_le_of_lt hfine), hkind.trans ?_⟩
    simp [responseOf, errorOf, Http.Response.facts, Extractor.errorType?, Nat.not_le_of_lt hfine,
      Attribute.text?]
  case failure =>
    rintro error rfl
    exact ⟨rfl, hcode.trans List.take_nil, hkind⟩
  case dropped =>
    rintro rfl
    exact ⟨rfl, hcode.trans List.take_nil, hkind.trans List.take_nil⟩
  case error_of_kind =>
    intro hsome
    refine hstatus.2 fun hnone => hshown.2 hsome ?_
    rw [hkind, hnone]
    exact List.take_nil
  case kind_of_error =>
    intro hroom herror
    obtain ⟨text, htext⟩ := Option.ne_none_iff_exists'.1 (hstatus.1 herror)
    rw [hcode, List.length_take] at hroom
    have hone := Attribute.length_number?_le .responseStatus ((responseOf final).bind (·.status))
    refine hshown.1 ?_
    rw [hkind, htext, List.take_of_length_le]
    · exact List.cons_ne_nil _ _
    · change 1 ≤ _
      omega

/-- What a layer may ask of a request, which has a holder without a route by then. -/
def Service.startFacts (s : Service) (r : Http.Request) : RequestFacts :=
  Http.Request.facts { s.inject r with route := none }

namespace Session

/-- **A failure shows in the status and, if there is room, in the kind of error.** Whatever layers there
are and whatever they capture, a span is reported by the step that ends its call and tells how the call
ended: its status is an error without description after a response from 500 on, an error with the text
of the error after a failure, and unset otherwise. The status code and the kind of error are what the
outcome gives, as far as the attributes of the request leave room for them. So only a failure has a kind
of error, and every failure has one if there is room for it. -/
theorem failure_of_reported (service : Service) (steps : List Step) {j : Nat} {o : Observation}
    (hj : (run service [] steps)[j]? = some o) {span : Span} (hspan : span ∈ o.spans) :
    ∃ i name request final, steps[i]? = some (.call name request) ∧
      endOf? steps i = some (j, final) ∧ o.report.yielded = final ∧
      ∃ layer ∈ service.enabled, span.Tells final service.recording.attributeLimit
        (layer.extractor.onStart (service.startFacts request)).length := by
  obtain ⟨i, name, request, final, hi, hend, hyield, x, hx, holder, rfl⟩ :=
    State.exists_ended service hj hspan
  obtain ⟨layer, hlayer, parent, depth, place, rfl⟩ := service.call_started request _ x hx
  exact ⟨i, name, request, final, hi, hend, hyield, layer, hlayer,
    OpenSpan.tells _ (r := service.startFacts request) rfl rfl holder final⟩

/-- A response of 503 to a request without headers. -/
theorem failure_of_reported_unavailable :
    let service : Service := ⟨[], none, [⟨.standard, true⟩], {}⟩
    let steps : List Step :=
      [.call "a".toList ⟨"GET".toList, .origin "/".toList none, .v11, [], [], none, none⟩,
        .settle "a".toList (.response ⟨503, [], []⟩), .poll "a".toList]
    ∃ o, (run service [] steps)[2]? = some o ∧ ∃ span ∈ o.spans, span.status = .error [] ∧
      Attribute.under .errorType span.attributes = [⟨.errorType, .text "503".toList⟩] := by
  intro service steps
  refine ⟨_, rfl, _, List.mem_cons_self, ?_⟩
  obtain ⟨i, name, request, final, hi, hend, hyield, layer, hlayer, htells⟩ :=
    failure_of_reported service steps (j := 2) rfl List.mem_cons_self
  obtain rfl := hyield
  obtain ⟨hstatus, -⟩ := htells.failed_response _ rfl (by decide)
  exact ⟨hstatus, by decide⟩

/-- The extractor that captures so many request headers, `h0` and on. -/
def capturing (count : Nat) : Extractor :=
  .ofOptions { capturedRequestHeaders := (List.range count).map fun n => 'h' :: decimal n }

/-- A request that carries all headers to record may fill its span, and then nothing is kept of how the
request failed but the status. -/
theorem full_span_without_errorType :
    ¬ ∀ (extractor : Extractor) (steps : List Step),
      ∀ span ∈ (run ⟨[], none, [⟨extractor, true⟩], {}⟩ [] steps).flatMap (·.spans),
        ((∃ description, span.status = .error description) ↔
          ∃ a ∈ span.attributes, a.key.name = "error.type".toList) := by
  intro hagree
  let headers : Http.Headers := (capturing 124).requestHeaders.map fun name => ⟨name, [49]⟩
  let steps : List Step :=
    [.call "a".toList ⟨"GET".toList, .origin "/".toList none, .v11, headers, [], none, none⟩,
      .settle "a".toList (.response ⟨500, [], []⟩), .poll "a".toList]
  have hfull : ∃ span ∈ (run ⟨[], none, [⟨capturing 124, true⟩], {}⟩ [] steps).flatMap (·.spans),
      span.status = .error [] ∧ ∀ a ∈ span.attributes, a.key.name ≠ "error.type".toList := by
    decide +kernel
  obtain ⟨span, hspan, hstatus, hnone⟩ := hfull
  obtain ⟨a, ha, hname⟩ := (hagree _ steps span hspan).1 ⟨[], hstatus⟩
  exact hnone a ha hname

end Session

end ServerTelemetry
