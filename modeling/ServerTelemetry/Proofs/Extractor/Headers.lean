import ServerTelemetry.Extractor
import ServerTelemetry.Http.Message

/-!
# The headers that attributes come from

An extractor reads a few headers of a request and of a response, by their names
(`Extractor.requestReads`, `Extractor.responseHeaders`). Requests that agree on these and on
everything that is no header, but may have any other headers and bodies, have the same attributes
(`onStart_eq_of_agreeOn`), and so do responses (`onEnd_eq_of_agreeOn`).
-/

namespace ServerTelemetry

open Text

namespace Http

/-- The fields with a name, in any case. -/
def Headers.named (headers : Headers) (name : Text) : Headers :=
  headers.filter fun h => sameLetters h.name name

/-- The values of the fields with a name, in order. -/
def Headers.fieldValues (headers : Headers) (name : Text) : List (List UInt8) :=
  (headers.filter fun h => h.name == name).map (·.value)

/-- Requests that may differ in their bodies and in headers with other names. -/
structure Request.AgreeOn (names : List Text) (r s : Request) : Prop where
  method : r.method = s.method
  uri : r.uri = s.uri
  version : r.version = s.version
  connection : r.connection = s.connection
  route : r.route = s.route
  headers : ∀ name ∈ names, r.headers.named name = s.headers.named name

/-- Responses that may differ in their bodies and in headers with other names. -/
structure Response.AgreeOn (names : List Text) (r s : Response) : Prop where
  status : r.status = s.status
  headers : ∀ name ∈ names, r.headers.named name = s.headers.named name

namespace Headers

/-- Names are looked up in lower case, so only the fields with that name in some case count. -/
theorem lines_named (headers : Headers) (name : Text) :
    (headers.named name).lines name = headers.lines name := by
  rw [lines, lines, named, List.filter_filter]
  refine congrArg (List.filterMap _) (List.filter_congr fun h _ => ?_)
  -- A field with the name in lower case has the name in some case.
  by_cases hname : h.name = lower name
  · have hsame : sameLetters h.name name = true := by
      rw [sameLetters_iff, hname, lower_lower]
    rw [hsame, Bool.and_true]
  · rw [beq_eq_false_iff_ne.2 hname, Bool.false_and]

theorem lines_eq_filterMap (headers : Headers) (name : Text) :
    headers.lines name = (headers.fieldValues (lower name)).filterMap readable? := by
  rw [lines, fieldValues, List.filterMap_map]
  rfl

variable {a b : Headers} {name : Text}

theorem values_congr (h : a.named name = b.named name) : a.values name = b.values name := by
  rw [values, values, ← lines_named a, ← lines_named b, h]

theorem value?_congr (h : a.named name = b.named name) : a.value? name = b.value? name := by
  rw [value?, value?, ← lines_named a, ← lines_named b, h]

end Headers

namespace Request.AgreeOn

variable {names : List Text} {r s : Request}

theorem mono {more : List Text} (h : r.AgreeOn more s) (hsub : names ⊆ more) :
    r.AgreeOn names s :=
  { h with headers := fun name hname => h.headers name (hsub hname) }

theorem withRoute (h : r.AgreeOn names s) (route : Option RouteHolder) :
    { r with route := route }.AgreeOn names { s with route := route } :=
  { h with route := rfl }

theorem withConnection (h : r.AgreeOn names s) (connection : Option Connection) :
    { r with connection := connection }.AgreeOn names { s with connection := connection } :=
  { h with connection := rfl }

theorem header (h : r.AgreeOn names s) {name : Text} (hname : name ∈ names) :
    r.facts.header name = s.facts.header name :=
  Headers.values_congr (h.headers name hname)

theorem headerValue (h : r.AgreeOn names s) {name : Text} (hname : name ∈ names) :
    r.facts.headerValue name = s.facts.headerValue name :=
  Headers.value?_congr (h.headers name hname)

/-- What else may be asked of them is the same. -/
theorem facts (h : r.AgreeOn names s) :
    s.facts = { r.facts with header := s.facts.header, headerValue := s.facts.headerValue } := by
  obtain ⟨method, uri, version, headers, body, connection, route⟩ := r
  obtain ⟨rfl, rfl, rfl, rfl, rfl, -⟩ := h
  rfl

end Request.AgreeOn

end Http

namespace Extractor

theorem headers_congr {key : Text → AttributeKey} {names : List Text} {f g : Text → List Text}
    (h : ∀ name ∈ names, f name = g name) :
    (names.flatMap fun name => Attribute.texts (key name) (f name)) =
      names.flatMap fun name => Attribute.texts (key name) (g name) := by
  rw [List.flatMap, List.flatMap]
  refine congrArg List.flatten (List.map_congr_left fun name hname => ?_)
  rw [h name hname]

/-- The names of the request headers that attributes come from. -/
def requestReads (e : Extractor) : List Text :=
  ["user-agent", "forwarded", "x-forwarded-for", "host"].map String.toList ++ e.requestHeaders
    ++ if e.preferForwardedScheme then ["x-forwarded-proto".toList] else []

variable {e : Extractor}

section Facts

variable {f : RequestFacts} {header : Text → List Text} {headerValue : Text → Option Text}

/-- Attributes that headers have a part in are the user agent, the client, the server, the scheme and
the headers to record. -/
theorem onStart_congr {serverAddress : Option Text} {serverPort : Option UInt16}
    (hagent : headerValue "user-agent".toList = f.headerValue "user-agent".toList)
    (hclient : clientAddress? { f with
      header := header, headerValue := headerValue, serverAddress := serverAddress,
      serverPort := serverPort } = clientAddress? f)
    (hserver : server { f with
      header := header, headerValue := headerValue, serverAddress := serverAddress,
      serverPort := serverPort } = server f)
    (hscheme : e.scheme { f with
      header := header, headerValue := headerValue, serverAddress := serverAddress,
      serverPort := serverPort } = e.scheme f)
    (hheader : ∀ name ∈ e.requestHeaders, header name = f.header name) :
    e.onStart { f with
      header := header, headerValue := headerValue, serverAddress := serverAddress,
      serverPort := serverPort } = e.onStart f := by
  simp only [onStart, reportedPort?, hscheme, hserver, hclient, hagent, headers_congr hheader]
  rfl

theorem mem_requestReads_of_mem {name : Text} (h : name ∈ e.requestHeaders) :
    name ∈ e.requestReads :=
  List.mem_append_left _ (List.mem_append_right _ h)

theorem mem_requestReads_of_prefers (h : e.preferForwardedScheme = true) :
    "x-forwarded-proto".toList ∈ e.requestReads := by
  rw [requestReads, if_pos h]
  exact List.mem_append_right _ (List.mem_singleton_self _)

theorem mem_requestReads_of_fixed {name : Text}
    (h : name ∈ ["user-agent", "forwarded", "x-forwarded-for", "host"].map String.toList) :
    name ∈ e.requestReads :=
  List.mem_append_left _ (List.mem_append_left _ h)

variable (hreads : ∀ name ∈ e.requestReads,
  header name = f.header name ∧ headerValue name = f.headerValue name)

include hreads in
theorem scheme_of_reads :
    e.scheme { f with header := header, headerValue := headerValue } = e.scheme f := by
  have hforwarded := (hreads "forwarded".toList (mem_requestReads_of_fixed (by decide))).2
  cases hprefer : e.preferForwardedScheme with
  | false => simp only [scheme, hprefer, Bool.false_eq_true, ↓reduceIte]
  | true =>
    have hproto := (hreads _ (mem_requestReads_of_prefers hprefer)).2
    simp only [scheme, hprefer, ↓reduceIte, proxyScheme?, hforwarded, hproto]

include hreads in
theorem server_of_reads :
    server { f with header := header, headerValue := headerValue } = server f := by
  have hhost := (hreads "host".toList (mem_requestReads_of_fixed (by decide))).2
  simp only [server, hhost]

include hreads in
theorem clientAddress?_of_reads :
    clientAddress? { f with header := header, headerValue := headerValue } = clientAddress? f := by
  have hforwarded := (hreads "forwarded".toList (mem_requestReads_of_fixed (by decide))).2
  have hfor := (hreads "x-forwarded-for".toList (mem_requestReads_of_fixed (by decide))).2
  simp only [clientAddress?, hforwarded, hfor]

include hreads in
theorem onStart_of_reads :
    e.onStart { f with header := header, headerValue := headerValue } = e.onStart f :=
  onStart_congr (hreads _ (mem_requestReads_of_fixed (by decide))).2
    (clientAddress?_of_reads hreads) (server_of_reads hreads) (scheme_of_reads hreads)
    fun name hname => (hreads name (mem_requestReads_of_mem hname)).1

end Facts

/-- **Attributes of a request** come from the headers that are read and from what is no header. -/
theorem onStart_eq_of_agreeOn {r s : Http.Request} (h : r.AgreeOn e.requestReads s) :
    e.onStart r.facts = e.onStart s.facts := by
  rw [h.facts]
  symm
  exact onStart_of_reads fun name hname => ⟨(h.header hname).symm, (h.headerValue hname).symm⟩

theorem spanName_eq_of_agreeOn {names : List Text} {r s : Http.Request} (h : r.AgreeOn names s)
    (route : Option Text) : e.spanName r.facts route = e.spanName s.facts route := by
  rw [h.facts]
  rfl

/-- **Attributes of a response** come from its status and the headers to record. -/
theorem onEnd_eq_of_agreeOn {r s : Http.Response} (h : r.AgreeOn e.responseHeaders s)
    (error route : Option Text) :
    e.onEnd (some r.facts) error route = e.onEnd (some s.facts) error route := by
  have hheader : ∀ name ∈ e.responseHeaders, r.facts.header name = s.facts.header name :=
    fun name hname => Http.Headers.values_congr (h.headers name hname)
  have hstatus : r.facts.status = s.facts.status := congrArg some h.status
  simp only [onEnd, Option.bind_some, hstatus, Option.toList_some, List.flatMap_singleton,
    headers_congr hheader]

end Extractor

end ServerTelemetry
