import ServerTelemetry.Proofs.Extractor.Keys
import ServerTelemetry.Proofs.Session.Confidential
import ServerTelemetry.Proofs.Session.Report

/-!
# Keys on reported spans

All spans that a session reports are opened by a layer that is enabled, for a request that has just
got a holder without a route (`exists_opened`). So a route is among the attributes at most once, from
the end, and what may repeat are the headers to record: `keys_of_reported` bounds every key by the
number of times its name is listed. A name that is listed twice, in whatever letters, gives its
attribute twice (`repeated_name_repeats_key`).
-/

namespace ServerTelemetry

open Session

/-! ## Where reported spans come from -/

/-- Nothing is told apart from anything but itself. -/
def Likeness.same : Likeness where
  requests := Eq
  outcomes := Eq
  offers := Eq

theorem Step.Like.same (s : Step) : s.Like .same s := by
  cases s with
  | ready state => exact .ready state
  | call n r => exact .call n rfl
  | offer n source route => exact .offer n rfl
  | settle n o => exact .settle n rfl
  | poll n => exact .poll n
  | drop n => exact .drop n

namespace Service

variable (s : Service)

/-- The spans that the service opens. -/
def Opens (x : OpenSpan) : Prop :=
  ∃ layer ∈ s.enabled, ∃ request parent depth place,
    x = .start s.recording layer.extractor request parent depth place

/-- Every layer starts its span for the request as it came, whatever holders the layers around it have
put on it. -/
theorem enter_started (layers : List Layer) (hlayers : layers ⊆ s.layers) (r : Http.Request)
    (place : Option Nat) (w : Shared) :
    ∀ x ∈ (s.enter layers r place w).1.future.spans, ∃ layer ∈ s.enabled, ∃ parent depth place,
      x = .start s.recording layer.extractor r parent depth place := by
  induction layers generalizing r place w with
  | nil => exact fun x hx => absurd hx List.not_mem_nil
  | cons layer layers ih =>
    obtain ⟨hlayer, hlayers⟩ := List.cons_subset.1 hlayers
    cases hen : layer.enabled with
    | false =>
      rw [enter_disabled s hen]
      exact ih hlayers r place w
    | true =>
      rw [enter_enabled s hen]
      refine List.forall_mem_cons.2 ⟨⟨layer, List.mem_filter.2 ⟨hlayer, hen⟩, _, _, _, rfl⟩, ?_⟩
      intro x hx
      obtain ⟨inner, hinner, parent, depth, place, rfl⟩ := ih hlayers _ _ _ x hx
      exact ⟨inner, hinner, parent, depth, place, rfl⟩

theorem call_started (r : Http.Request) (w : Shared) :
    ∀ x ∈ (s.call r w).1.future.spans, ∃ layer ∈ s.enabled, ∃ parent depth place,
      x = .start s.recording layer.extractor (s.inject r) parent depth place := by
  rw [call_eq_enter]
  exact s.enter_started s.layers (List.Subset.refl _) _ _ _

theorem call_opens (r : Http.Request) (w : Shared) :
    ∀ x ∈ (s.call r w).1.future.spans, s.Opens x := by
  intro x hx
  obtain ⟨layer, hlayer, parent, depth, place, rfl⟩ := s.call_started r w x hx
  exact ⟨layer, hlayer, _, parent, depth, place, rfl⟩

/-- What a session closes was opened by its service; next to it stands the same session. -/
def opening : Simulation .same
    (fun c _ => ∃ x holder outcome, s.Opens x ∧ c = x.close holder outcome) s s where
  shared _ _ := True
  places _ _ := True
  spans x _ := s.Opens x
  initial := trivial
  close := by
    rintro w v x y o o' - hx -
    exact ⟨x, _, o, hx, rfl⟩
  offer := by
    intros
    trivial
  call := by
    rintro w v r r' - -
    obtain ⟨-, hlength⟩ := s.call_spans r w
    obtain ⟨-, hlength'⟩ := s.call_spans r' v
    refine ⟨trivial, trivial, List.forall₂_iff_zip.2 ⟨by rw [hlength, hlength'], fun {x y} hxy => ?_⟩⟩
    exact s.call_opens r w x (List.of_mem_zip hxy).1

end Service

theorem Observation.Like.exists_closed {p : Closed → Prop} {o o' : Observation}
    (h : o.Like (fun c _ => p c) o') {span : Span} (hspan : span ∈ o.spans) :
    ∃ c, p c ∧ c.span = some span := by
  cases h with
  | closing hclosed _ _ =>
    obtain ⟨c, hc, hreport⟩ := List.mem_filterMap.1 hspan
    obtain ⟨i, hi, rfl⟩ := List.mem_iff_getElem.1 hc
    obtain ⟨hlength, hp⟩ := List.forall₂_iff_get.1 hclosed
    exact ⟨_, hp i hi (hlength ▸ hi), hreport⟩

/-- Every span that is reported was opened by a layer. -/
theorem Session.exists_opened {service : Service} {steps : List Step} {o : Observation}
    (ho : o ∈ Session.run service [] steps) {span : Span} (hspan : span ∈ o.spans) :
    ∃ x holder outcome, service.Opens x ∧ span = x.report holder outcome := by
  have hsame : List.Forall₂ (Step.Like .same) steps steps :=
    List.forall₂_same.2 fun step _ => .same step
  have hlike := List.forall₂_same.1 (service.opening.run hsame) o ho
  obtain ⟨_, ⟨x, holder, outcome, hopened, rfl⟩, hreport⟩ := hlike.exists_closed hspan
  simp only [OpenSpan.close, Option.ite_none_right_eq_some, Option.some.injEq] at hreport
  exact ⟨x, holder, outcome, hopened, hreport.2.symm⟩

/-! ## Keys -/

/-- The keys on a span that a service opens are those of a request without a route and those of its
outcome. -/
theorem OpenSpan.keys_report {service : Service} {x : OpenSpan} (hx : service.Opens x)
    (holder : RouteHolder) (outcome : Option Outcome) :
    (Attribute.keys (x.report holder outcome).attributes).Sublist x.extractor.spanKeys := by
  obtain ⟨layer, -, request, parent, depth, place, rfl⟩ := hx
  have htake : (Attribute.keys ((OpenSpan.start service.recording layer.extractor request parent
      depth place).report holder outcome).attributes).Sublist (Attribute.keys (_ ++ _)) :=
    (List.take_sublist _ _).map _
  rw [Attribute.keys_append, OpenSpan.endAttributes_eq] at htake
  refine htake.trans ((Extractor.keys_onStart _ ?_).append (Extractor.keys_onEnd ..))
  rfl

namespace Session

/-- **What repeats on a span are names to record.** A key occurs on a reported span as often as its
header is named, in any letters, among the headers that a layer is to record, and at most once if it
is no header's. So no key occurs twice if no header is named twice. -/
theorem keys_of_reported (service : Service) (steps : List Step) :
    ∀ span ∈ (Session.run service [] steps).flatMap (·.spans), ∃ layer ∈ service.enabled,
      (∀ key : AttributeKey, (span.attributes.map (·.key.name)).count key.name
        ≤ layer.extractor.timesNamed key) ∧
      (layer.extractor.requestHeaders.Nodup → layer.extractor.responseHeaders.Nodup →
        (span.attributes.map (·.key.name)).Nodup) := by
  intro span hspan
  obtain ⟨o, ho, hspan⟩ := List.mem_flatMap.1 hspan
  obtain ⟨x, holder, outcome, hx, rfl⟩ := exists_opened ho hspan
  have hkeys := x.keys_report hx holder outcome
  obtain ⟨layer, hlayer, request, parent, depth, place, rfl⟩ := hx
  have hnames : ∀ attributes : List Attribute, attributes.map (·.key.name) =
      (Attribute.keys attributes).map AttributeKey.name := by
    intro attributes
    rw [Attribute.keys, List.map_map]
    rfl
  refine ⟨layer, hlayer, fun key => ?_, fun hrequest hresponse => ?_⟩
  · rw [hnames, List.count_map_of_injective _ _ AttributeKey.name_injective]
    exact Nat.le_trans (hkeys.count_le key) (layer.extractor.count_spanKeys_le key)
  · rw [hnames]
    refine List.Nodup.map AttributeKey.name_injective (hkeys.nodup ?_)
    refine List.nodup_iff_count_le_one.2 fun key => ?_
    exact Nat.le_trans (layer.extractor.count_spanKeys_le key)
      (Extractor.timesNamed_le_one hrequest hresponse key)

/-- Two headers to record, named in other letters and with blanks, and one sent twice. -/
theorem keys_of_reported_captured :
    let names := ["X-A".toList, " x-b".toList]
    let headers : Http.Headers :=
      [⟨"x-b".toList, [49]⟩, ⟨"x-a".toList, [50]⟩, ⟨"x-b".toList, [51]⟩]
    let service : Service :=
      ⟨[], none, [⟨.ofOptions { capturedRequestHeaders := names }, true⟩], {}⟩
    let steps : List Step :=
      [.call "a".toList ⟨"GET".toList, .origin "/".toList none, .v11, headers, [], none, none⟩,
        .settle "a".toList (.response ⟨200, [], []⟩), .poll "a".toList]
    ∃ span ∈ (Session.run service [] steps).flatMap (·.spans),
      ⟨.requestHeader "x-b".toList, .texts ["1".toList, "3".toList]⟩ ∈ span.attributes ∧
        (span.attributes.map (·.key.name)).Nodup := by
  intro names headers service steps
  refine ⟨_, List.mem_of_mem_head? rfl, by decide, ?_⟩
  obtain ⟨layer, hlayer, -, hnodup⟩ := keys_of_reported service steps _ (List.mem_of_mem_head? rfl)
  obtain rfl := List.mem_singleton.1 hlayer
  exact hnodup (by decide) (by decide)

/-- A header named in two letter cases has its key twice. -/
theorem repeated_name_repeats_key :
    ¬ ∀ (options : ExtractorOptions) (steps : List Step),
      ∀ span ∈ (Session.run ⟨[], none, [⟨.ofOptions options, true⟩], {}⟩ [] steps).flatMap (·.spans),
        (span.attributes.map (·.key.name)).Nodup := by
  intro hkeys
  have hnodup := hkeys { capturedRequestHeaders := ["X-A".toList, "x-a".toList] }
    [.call "a".toList ⟨"GET".toList, .origin "/".toList none, .v11, [⟨"x-a".toList, [49]⟩], [], none,
        none⟩, .settle "a".toList (.response ⟨200, [], []⟩), .poll "a".toList]
    _ (List.mem_of_mem_head? rfl)
  exact absurd hnodup (by decide)

end Session

end ServerTelemetry
