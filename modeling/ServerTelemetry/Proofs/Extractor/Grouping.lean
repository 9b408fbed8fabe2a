import Mathlib.Logic.Relation
import ServerTelemetry.Proofs.Extractor.Readable

/-!
# How a list header is grouped into fields

A sender may send the entries of a list in one field or in several, and a proxy may regroup them.
The entries of a header are what the header lists as it was sent, all fields joined (`lists_values`).
`Headers.entries` is what no regrouping changes (`entries_of_regrouped`): the trimmed pieces of all
values, the empty ones among them. The entries of a header, and what `Forwarded`, `X-Forwarded-For`
and `X-Forwarded-Proto` say, are functions of these (`values_eq_filter`, `bind_value?_congr`), so
attributes that do not show a header as it was sent are the same (`grouping_hidden`).
-/

namespace ServerTelemetry

open Text

/-! ## Proxies' words come from entries -/

namespace Forwarded

variable {s t : Text}

theorem parameter?_trim (name pair : Text) : parameter? name (trim pair) = parameter? name pair := by
  obtain ⟨a, b, hpair, ha, hb⟩ := exists_trim pair
  have hna : '=' ∉ a := notMem_of_blank ha (by decide)
  have hnb : '=' ∉ b := notMem_of_blank hb (by decide)
  cases hc : cut '=' (trim pair) with
  | none =>
    have hnot : '=' ∉ pair := by
      rw [hpair]
      simp [hna, hnb, cut_eq_none_iff.1 hc]
    rw [parameter?, parameter?, hc, cut_eq_none_iff.2 hnot]
  | some p =>
    obtain ⟨key, value⟩ := p
    obtain ⟨he, hkey⟩ := cut_eq_some_iff.1 hc
    have hcut : cut '=' pair = some (a ++ key, value ++ b) := by
      refine cut_eq_some_iff.2 ⟨?_, by simp [hna, hkey]⟩
      rw [hpair, he]
      simp
    simp only [parameter?, hc, hcut, Option.bind_some, trim_blank_append ha, trim_append_blank hb]

theorem parameters_trim (value : Text) :
    (parameters value).map trim = (entries value).flatMap fun e => (pieces ';' e).map trim := by
  simp only [parameters, entries, List.map_flatMap, List.flatMap_map,
    @trim_pieces_trim ';' (by decide)]

theorem directive?_congr (name : Text) (h : entries s = entries t) :
    directive? name s = directive? name t := by
  have htrimmed : ∀ value : Text,
      directive? name value = ((parameters value).map trim).findSome? (parameter? name) := by
    intro value
    simp only [directive?, List.findSome?_map, Function.comp_def, parameter?_trim]
  rw [htrimmed, htrimmed, parameters_trim, parameters_trim, h]

theorem first_congr (h : entries s = entries t) : trim (first ',' s) = trim (first ',' t) := by
  have hhead := congrArg List.head? h
  rw [head?_entries, head?_entries] at hhead
  exact Option.some.inj hhead

theorem address?_trim (node : Text) : address? (trim node) = address? node := by
  simp only [address?, bareNode, trim_trim]

theorem scheme?_congr (h : entries s = entries t) : scheme? s = scheme? t := by
  rw [scheme?, directive?_congr _ h, scheme?]

theorem client?_congr (h : entries s = entries t) : client? s = client? t := by
  rw [client?, directive?_congr _ h, client?]

theorem plainScheme?_congr (h : entries s = entries t) : plainScheme? s = plainScheme? t := by
  rw [plainScheme?, first_congr h, plainScheme?]

theorem plainClient?_congr (h : entries s = entries t) : plainClient? s = plainClient? t := by
  rw [plainClient?, ← address?_trim, first_congr h, address?_trim, plainClient?]

end Forwarded

/-! ## Entries of a header -/

namespace Http

theorem readable?_append {v w : List UInt8} {s t : Text} (hv : readable? v = some s)
    (hw : readable? w = some t) : readable? (v ++ w) = some (s ++ t) := by
  simp only [readable?, Option.ite_none_right_eq_some, Option.some.injEq] at hv hw
  obtain ⟨hv, rfl⟩ := hv
  obtain ⟨hw, rfl⟩ := hw
  simp [readable?, hv, hw]

/-- Spaces and tabs are read as blanks. -/
theorem readable?_spaces {v : List UInt8} (h : ∀ b ∈ v, b = 32 ∨ b = 9) :
    ∃ s, readable? v = some s ∧ blank s = true := by
  have hspace : ∀ b ∈ v, isReadableByte b = true ∧ isBlank (Char.ofNat b.toNat) = true := by
    intro b hb
    rcases h b hb with rfl | rfl <;> decide
  have hread : v.all isReadableByte = true := List.all_eq_true.2 fun b hb => (hspace b hb).1
  refine ⟨_, if_pos hread, blank_iff.2 ?_⟩
  · intro c hc
    obtain ⟨b, hb, rfl⟩ := List.mem_map.1 hc
    exact (hspace b hb).2

namespace Headers

/-- The trimmed pieces of the fields with a name, the empty ones among them. -/
def entries (headers : Headers) (name : Text) : List Text :=
  (headers.lines name).flatMap Text.entries

variable {a b : Headers} {name : Text}

theorem values_eq_filter (headers : Headers) (name : Text) :
    headers.values name = (headers.entries name).filter (! ·.isEmpty) := by
  rw [values, entries, List.filter_flatMap]
  rfl

theorem entries_eq_nil_iff : a.entries name = [] ↔ a.lines name = [] := by
  cases h : a.lines name with
  | nil => simp [entries, h]
  | cons line lines => simp [entries, h, entries_ne_nil]

theorem value?_eq_none_iff : a.value? name = none ↔ a.entries name = [] := by
  rw [entries_eq_nil_iff, value?, joinedHeader]
  split
  · next h => simpa using h
  · next h => simpa using h

theorem entries_value? {s : Text} (h : a.value? name = some s) :
    Text.entries s = a.entries name := by
  simp only [value?, joinedHeader, Option.ite_none_left_eq_some, Option.some.injEq] at h
  obtain ⟨hne, rfl⟩ := h
  exact entries_join (by simpa using hne)

theorem values_of_value?_none (h : a.value? name = none) : a.values name = [] := by
  rw [values_eq_filter, value?_eq_none_iff.1 h]
  rfl

/-- **The entries of a header are those of the header as it was sent.** -/
theorem lists_values {s : Text} (h : a.value? name = some s) : Lists s (a.values name) := by
  rw [lists_iff, values_eq_filter, ← entries_value? h, items_eq_filter]

/-- The values of the fields with a name are the bytes of these texts, all of them printable. -/
structure Carries (headers : Headers) (name : Text) (texts : List Text) : Prop where
  values : headers.fieldValues (lower name) = texts.map utf8Encode
  printable : ∀ text ∈ texts, printable text = true

theorem Carries.lines_eq {texts : List Text} (h : a.Carries name texts) :
    a.lines name = texts := by
  have hread : ∀ text ∈ texts, readable? (utf8Encode text) = some text := fun text htext =>
    readable?_utf8Encode (List.all_eq_true.1 (h.printable text htext))
  rw [lines_eq_filterMap, h.values, List.filterMap_map]
  exact (List.filterMap_congr hread).trans List.filterMap_some

theorem Carries.value?_eq {texts : List Text} (h : a.Carries name texts) :
    a.value? name = joinedHeader texts := by
  rw [value?, h.lines_eq]

/-- Texts that are sent in fields of their own list what they list when they are joined. -/
theorem Carries.lists_values {texts : List Text} (h : a.Carries name texts) :
    Lists (join ", ".toList texts) (a.values name) := by
  cases texts with
  | nil =>
    rw [values_of_value?_none h.value?_eq]
    exact lists_items []
  | cons text texts => exact Headers.lists_values h.value?_eq

/-- What is read from the entries of a header alone is the same where the entries are. -/
theorem bind_value?_congr {f : Text → Option Text}
    (hf : ∀ {s t : Text}, Text.entries s = Text.entries t → f s = f t)
    (h : a.entries name = b.entries name) : (a.value? name).bind f = (b.value? name).bind f := by
  cases ha : a.value? name with
  | none =>
    have hb : b.value? name = none := by rw [value?_eq_none_iff, ← h, value?_eq_none_iff.1 ha]
    rw [hb]
  | some s =>
    cases hb : b.value? name with
    | none =>
      rw [value?_eq_none_iff.1 hb, ← value?_eq_none_iff, ha] at h
      cases h
    | some t =>
      rw [Option.bind_some, Option.bind_some]
      exact hf (by rw [entries_value? ha, entries_value? hb, h])

/-! ## Regrouping -/

/-- Two values of the fields with a name that follow each other are one in the other headers: joined
with a comma, and perhaps spaces or tabs around it. The values can be read, and other fields are the
same. -/
structure Merged (name : Text) (apart joined : Headers) : Prop where
  others : ∀ other ≠ name, joined.fieldValues other = apart.fieldValues other
  value : ∃ before v left right w after,
    apart.fieldValues name = before ++ v :: w :: after ∧
    joined.fieldValues name = before ++ (v ++ left ++ [44] ++ right ++ w) :: after ∧
    (readable? v).isSome ∧ (readable? w).isSome ∧ ∀ b ∈ left ++ right, b = 32 ∨ b = 9

/-- Headers that come from each other by joining values and by cutting values at commas. -/
def Regrouped : Headers → Headers → Prop :=
  Relation.EqvGen fun apart joined => ∃ name, Merged name apart joined

theorem entries_of_merged (h : Merged name a b) (other : Text) :
    b.entries other = a.entries other := by
  by_cases hother : lower other = name
  · obtain ⟨before, v, left, right, w, after, ha, hb, hv, hw, hspaces⟩ := h.value
    obtain ⟨s, hs⟩ := Option.isSome_iff_exists.1 hv
    obtain ⟨t, ht⟩ := Option.isSome_iff_exists.1 hw
    obtain ⟨l, hl, hlblank⟩ := readable?_spaces fun b hb =>
      hspaces b (List.mem_append_left right hb)
    obtain ⟨r, hr, hrblank⟩ := readable?_spaces fun b hb =>
      hspaces b (List.mem_append_right left hb)
    have hcomma : readable? [44] = some [','] := by decide
    have hjoined : readable? (v ++ left ++ [44] ++ right ++ w) = some (s ++ l ++ [','] ++ r ++ t) :=
      readable?_append (readable?_append (readable?_append (readable?_append hs hl) hcomma) hr) ht
    have hentries : Text.entries (s ++ (l ++ ',' :: (r ++ t))) =
        Text.entries s ++ Text.entries t := by
      rw [← List.append_assoc, entries_append, entries_append_blank hlblank,
        entries_blank_append hrblank]
    rw [entries, entries, lines_eq_filterMap, lines_eq_filterMap, hother, ha, hb,
      List.filterMap_append, List.filterMap_append, List.filterMap_cons_some hs,
      List.filterMap_cons_some ht, List.filterMap_cons_some hjoined]
    simp [hentries]
  · rw [entries, entries, lines_eq_filterMap, lines_eq_filterMap, h.others _ hother]

/-- **Regrouping leaves the entries of every header as they are.** -/
theorem entries_of_regrouped (h : Regrouped a b) (name : Text) :
    b.entries name = a.entries name := by
  induction h with
  | rel a b hmerged =>
    obtain ⟨merged, h⟩ := hmerged
    exact entries_of_merged h name
  | refl a => rfl
  | symm a b _ ih => exact ih.symm
  | trans a b c _ _ ihab ihbc => exact ihbc.trans ihab

theorem values_of_regrouped (h : Regrouped a b) (name : Text) : b.values name = a.values name := by
  rw [values_eq_filter, entries_of_regrouped h, ← values_eq_filter]

end Headers

end Http

/-! ## Attributes -/

/-- The keys whose values are a header as it was sent, or a part of it. -/
def AttributeKey.showsHeader : AttributeKey → Bool
  | .userAgent | .serverAddress | .serverPort => true
  | _ => false

namespace Extractor

/-- The attributes that show no header as it was sent. -/
def ungrouped (attributes : List Attribute) : List Attribute :=
  Attribute.select (! ·.showsHeader) attributes

section Facts

variable {e : Extractor} {f : RequestFacts} {header : Text → List Text}
  {headerValue : Text → Option Text}

/-- Three attributes show a header as it was sent. The others are made from the client's address, the
scheme, the headers to record and what is no header. -/
theorem ungrouped_onStart_congr
    (hclient : clientAddress? { f with header := header, headerValue := headerValue } =
      clientAddress? f)
    (hscheme : e.scheme { f with header := header, headerValue := headerValue } = e.scheme f)
    (hheader : ∀ name, header name = f.header name) :
    ungrouped (e.onStart { f with header := header, headerValue := headerValue }) =
      ungrouped (e.onStart f) := by
  simp only [onStart, ungrouped, Attribute.select_append, Attribute.select_text? .userAgent,
    Attribute.select_text? .serverAddress, Attribute.select_number? .serverPort, hclient, hscheme,
    hheader]
  rfl

end Facts

end Extractor

namespace Http

variable {r : Request} {headers : Headers}

theorem clientAddress?_of_regrouped (h : r.headers.Regrouped headers) :
    Extractor.clientAddress? { r with headers := headers }.facts =
      Extractor.clientAddress? r.facts := by
  have hentries := Headers.entries_of_regrouped h
  have hforwarded : (headers.value? "forwarded".toList).bind Forwarded.client? =
      (r.facts.headerValue "forwarded".toList).bind Forwarded.client? :=
    Headers.bind_value?_congr Forwarded.client?_congr (hentries _)
  have hplain : (headers.value? "x-forwarded-for".toList).bind Forwarded.plainClient? =
      (r.facts.headerValue "x-forwarded-for".toList).bind Forwarded.plainClient? :=
    Headers.bind_value?_congr Forwarded.plainClient?_congr (hentries _)
  exact congrArg₂ Option.or hforwarded (congrArg₂ Option.or hplain rfl)

theorem scheme_of_regrouped (e : Extractor) (h : r.headers.Regrouped headers) :
    e.scheme { r with headers := headers }.facts = e.scheme r.facts := by
  have hentries := Headers.entries_of_regrouped h
  have hforwarded : (headers.value? "forwarded".toList).bind Forwarded.scheme? =
      (r.facts.headerValue "forwarded".toList).bind Forwarded.scheme? :=
    Headers.bind_value?_congr Forwarded.scheme?_congr (hentries _)
  have hplain : (headers.value? "x-forwarded-proto".toList).bind Forwarded.plainScheme? =
      (r.facts.headerValue "x-forwarded-proto".toList).bind Forwarded.plainScheme? :=
    Headers.bind_value?_congr Forwarded.plainScheme?_congr (hentries _)
  have hproxy : Extractor.proxyScheme? { r with headers := headers }.facts =
      Extractor.proxyScheme? r.facts := congrArg₂ Option.or hforwarded hplain
  rw [Extractor.scheme, Extractor.scheme, hproxy]
  rfl

/-- **How headers are grouped into fields makes no difference** to anything that reads them as lists.
A header as it was sent is the text of its fields, joined, and its entries are exactly those that this
lists. So when values of fields with one name are joined with commas, or cut at commas, any number of
times, all headers keep their entries, and a request its client address, its scheme and all attributes
but those that show a header as it was sent. A response keeps all its attributes. -/
theorem grouping_hidden :
    (∀ (r : Request) (name : Text),
      (∀ texts, r.headers.Carries name texts → r.facts.headerValue name = joinedHeader texts) ∧
      (r.facts.headerValue name = none → r.facts.header name = []) ∧
      ∀ value, r.facts.headerValue name = some value → Lists value (r.facts.header name)) ∧
    (∀ (r : Response) (name : Text) (texts : List Text), r.headers.Carries name texts →
      Lists (join ", ".toList texts) (r.facts.header name)) ∧
    (∀ (r : Request) (headers : Headers), r.headers.Regrouped headers →
      let s := { r with headers := headers }
      (∀ name, s.facts.header name = r.facts.header name) ∧
      Extractor.clientAddress? s.facts = Extractor.clientAddress? r.facts ∧
      ∀ e : Extractor, e.scheme s.facts = e.scheme r.facts ∧
        Extractor.ungrouped (e.onStart s.facts) = Extractor.ungrouped (e.onStart r.facts)) ∧
    ∀ (r : Response) (headers : Headers), r.headers.Regrouped headers →
      let s := { r with headers := headers }
      (∀ name, s.facts.header name = r.facts.header name) ∧
      ∀ (e : Extractor) (error route : Option Text),
        e.onEnd (some s.facts) error route = e.onEnd (some r.facts) error route := by
  refine ⟨fun r name => ⟨fun texts h => h.value?_eq, Headers.values_of_value?_none,
    fun value h => Headers.lists_values h⟩, fun r name texts h => h.lists_values,
    fun r headers h => ?_, fun r headers h => ?_⟩
  · have hheader := Headers.values_of_regrouped h
    have hclient := clientAddress?_of_regrouped h
    refine ⟨hheader, hclient, fun e => ⟨scheme_of_regrouped e h, ?_⟩⟩
    exact @Extractor.ungrouped_onStart_congr e r.facts headers.values headers.value? hclient
      (scheme_of_regrouped e h) hheader
  · have hheader := Headers.values_of_regrouped h
    refine ⟨hheader, fun e error route => ?_⟩
    have hfacts : { r with headers := headers }.facts = r.facts := by
      simp only [Response.facts, ResponseFacts.mk.injEq, true_and]
      exact funext hheader
    rw [hfacts]

/-- The first of two clients is the same when their fields become one, and both are listed. -/
theorem grouping_hidden_proxies :
    let field (value : String) : Header :=
      ⟨"x-forwarded-for".toList, value.toList.map fun c => UInt8.ofNat c.toNat⟩
    let apart : Headers := [field "1.1.1.1", field "2.2.2.2"]
    let joined : Headers := [field "1.1.1.1 , 2.2.2.2"]
    let request : Request := ⟨"GET".toList, .origin "/".toList none, .v11, apart, [], none, none⟩
    let response : Response := ⟨200, apart, []⟩
    let e : Extractor := .ofOptions { capturedResponseHeaders := ["X-Forwarded-For".toList] }
    let clients := ["1.1.1.1".toList, "2.2.2.2".toList]
    apart.Carries "X-Forwarded-For".toList clients ∧ apart.Regrouped joined ∧
      request.facts.headerValue "X-Forwarded-For".toList = some "1.1.1.1, 2.2.2.2".toList ∧
      Lists "1.1.1.1, 2.2.2.2".toList (request.facts.header "X-Forwarded-For".toList) ∧
      Lists "1.1.1.1, 2.2.2.2".toList (response.facts.header "X-Forwarded-For".toList) ∧
      Extractor.clientAddress? request.facts = some "1.1.1.1".toList ∧
      Extractor.clientAddress? { request with headers := joined }.facts =
        Extractor.clientAddress? request.facts ∧
      e.onEnd (some { response with headers := joined }.facts) none none =
        e.onEnd (some response.facts) none none := by
  intro field apart joined request response e clients
  have hcarries : apart.Carries "X-Forwarded-For".toList clients := ⟨by decide, by decide⟩
  have hmerged : Headers.Merged "x-forwarded-for".toList apart joined := by
    refine ⟨fun other hother => ?_, [], (field "1.1.1.1").value, [32], [32],
      (field "2.2.2.2").value, [], rfl, rfl, by decide, by decide, by simp⟩
    have hname : ("x-forwarded-for".toList == other) = false := beq_eq_false_iff_ne.2 hother.symm
    simp only [Headers.fieldValues, apart, joined, field, List.filter_cons, hname,
      Bool.false_eq_true, ↓reduceIte, List.filter_nil]
  have hregrouped : apart.Regrouped joined := .rel _ _ ⟨_, hmerged⟩
  obtain ⟨asked, answered, requests, responses⟩ := grouping_hidden
  have hvalue : request.facts.headerValue "X-Forwarded-For".toList =
      some "1.1.1.1, 2.2.2.2".toList := (asked request _).1 clients hcarries
  exact ⟨hcarries, hregrouped, hvalue, (asked request _).2.2 _ hvalue,
    answered response _ clients hcarries, by decide, (requests request joined hregrouped).2.1,
    (responses response joined hregrouped).2 e none none⟩

end Http

end ServerTelemetry
