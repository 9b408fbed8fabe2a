import Mathlib.Data.List.TakeDrop
import ServerTelemetry.Proofs.Extractor.Readable
import ServerTelemetry.Proofs.Http.Authority
import ServerTelemetry.Proofs.Http.Message

/-!
# Two forms of a request target

A client sends a path and names the server in the `Host` header; a client of a proxy sends an
absolute URI. Both are read as the same path and query (`read_absolute`), and the server is found in
the authority either way, so a request has the same attributes in either form
(`target_forms_alike`).
-/

namespace ServerTelemetry

open Text

/-! ## Reading the target -/

namespace Text

theorem utf8Length_append (s t : Text) : utf8Length (s ++ t) = utf8Length s + utf8Length t := by
  induction s with
  | nil => simp [utf8Length]
  | cons c s ih =>
    simp only [List.cons_append, utf8Length, ih]
    omega

end Text

namespace Http

/-- The scheme of a connection, with or without TLS. -/
def schemeOf (tls : Bool) : Text :=
  if tls then "https".toList else "http".toList

namespace Uri

theorem readPath_slash {rest path : Text} {query : Option Text}
    (h : readPath ('/' :: rest) = .ok (path, query)) : path.isEmpty = false := by
  have hpath : ('/' :: rest).takeWhile isPathChar = '/' :: rest.takeWhile isPathChar := rfl
  rw [readPath, List.span_eq_takeWhile_dropWhile, hpath] at h
  simp only at h
  split at h
  · cases h
    rfl
  · cases h
    rfl
  · next query _ =>
    cases hquery : readQuery query with
    | error e =>
      rw [hquery] at h
      cases h
    | ok query =>
      rw [hquery] at h
      cases h
      rfl
  · cases h

theorem readHierarchy_of_bare {authority address : Text} {port : Option UInt16}
    (hbare : Authority.Bare authority address port) (scheme rest : Text) :
    readHierarchy scheme (authority ++ '/' :: rest) =
      (readPath ('/' :: rest)).map fun p => .absolute scheme authority p.1 p.2 := by
  have hchars : ∀ c ∈ authority, (! Authority.isEnd c) = true := by
    intro c hc
    rw [Authority.isEnd_of_isChar (Authority.isChar_of_check hbare.accepted c hc)]
    rfl
  have hspan : (authority ++ '/' :: rest).span (! Authority.isEnd ·) =
      (authority, '/' :: rest) := by
    rw [List.span_eq_takeWhile_dropWhile, List.takeWhile_append_of_pos hchars,
      List.dropWhile_append_of_pos hchars]
    simp [Authority.isEnd]
  have hne : authority.isEmpty = false := hbare.isEmpty_eq
  have hfull : (authority ++ '/' :: rest).isEmpty = false := by simp
  rw [readHierarchy]
  simp only [hspan, hfull, hne, hbare.accepted, bind, Except.bind]
  cases hpath : readPath ('/' :: rest) with
  | error e => rfl
  | ok p =>
    have hslash := readPath_slash hpath
    simp only [hslash, Bool.false_eq_true, ↓reduceIte]
    rfl

/-- An absolute target has the path and query of the path that follows its authority. -/
theorem read_absolute {tls : Bool} {authority address rest : Text} {port : Option UInt16} {u : Uri}
    (hbare : Authority.Bare authority address port)
    (h : read (schemeOf tls ++ "://".toList ++ authority ++ '/' :: rest) = .ok u) :
    ∃ path query, u = .absolute (schemeOf tls) authority path query ∧
      read ('/' :: rest) = .ok (.origin path query) := by
  have htooLong : ∀ s, 65534 < utf8Length s → read s = .error .tooLong := fun s hs => if_pos hs
  have hread : ∀ s, utf8Length (schemeOf tls ++ "://".toList ++ s) ≤ 65534 →
      read (schemeOf tls ++ "://".toList ++ s) = readHierarchy (schemeOf tls) s := by
    intro s hs
    cases tls
    · exact if_neg (Nat.not_lt.2 hs)
    · exact if_neg (Nat.not_lt.2 hs)
  rw [List.append_assoc (_ ++ _)] at h
  have hlength : utf8Length (schemeOf tls ++ "://".toList ++ (authority ++ '/' :: rest)) ≤ 65534 := by
    by_contra hlong
    rw [htooLong _ (Nat.lt_of_not_le hlong)] at h
    cases h
  rw [hread _ hlength, readHierarchy_of_bare hbare] at h
  cases hpath : readPath ('/' :: rest) with
  | error e =>
    rw [hpath] at h
    cases h
  | ok p =>
    rw [hpath] at h
    cases h
    have hshorter : ¬ 65534 < utf8Length ('/' :: rest) := by
      simp only [utf8Length_append] at hlength
      omega
    have horigin : read ('/' :: rest) = (readPath ('/' :: rest)).map fun p => .origin p.1 p.2 := by
      refine (if_neg hshorter).trans ?_
      simp only [hpath]
      rfl
    exact ⟨p.1, p.2, rfl, by rw [horigin, hpath]; rfl⟩

end Uri

/-! ## Where the server is found -/

section Server

variable {authority address : Text} {port : Option UInt16} {r : Request}
  (hbare : Authority.Bare authority address port)

include hbare in
theorem readable?_of_bare : readable? (utf8Encode authority) = some authority := by
  refine readable?_utf8Encode fun c hc => isPrintable_iff.2 ?_
  have hrange := Authority.isChar_toNat (Authority.isChar_of_check hbare.accepted c hc)
  omega

include hbare in
theorem server_of_target (htarget : r.uri.authority? = some authority)
    (hheader : r.headers.lines "host".toList = []) :
    Extractor.server r.facts =
      (some address, port.or ((r.connection.bind (·.server)).map (·.port))) := by
  have hvalue : r.facts.headerValue "host".toList = none := congrArg joinedHeader hheader
  have haddress : r.serverAddress? = some address := by
    rw [Request.serverAddress?, Uri.host?, htarget]
    exact congrArg some hbare.address_eq
  have hport : r.serverPort? = port.or ((r.connection.bind (·.server)).map (·.port)) := by
    rw [Request.serverPort?, Uri.port?, htarget, Option.bind_some, hbare.port?_eq]
  simp only [Extractor.server, hvalue, Option.bind_none]
  exact Prod.ext haddress hport

include hbare in
theorem server_of_header (htarget : r.uri.authority? = none)
    (hheader : r.headers.lines "host".toList = [authority]) :
    Extractor.server r.facts =
      (some address, port.or ((r.connection.bind (·.server)).map (·.port))) := by
  have hvalue : r.facts.headerValue "host".toList = some authority :=
    congrArg joinedHeader hheader
  have hport : r.serverPort? = (r.connection.bind (·.server)).map (·.port) := by
    rw [Request.serverPort?, Uri.port?, htarget, Option.bind_none, Option.none_or]
  simp only [Extractor.server, hvalue, Option.bind_some, hbare.splitHostAndPort_eq]
  exact congrArg (fun p => (some address, port.or p)) hport

end Server

end Http

/-! ## Attributes -/

namespace Extractor

variable {e : Extractor} {f : RequestFacts} {header : Text → List Text}
  {headerValue : Text → Option Text} {serverAddress : Option Text} {serverPort : Option UInt16}

/-- Facts that find the same server in other places are described alike, if no other header of them
is read otherwise. -/
theorem onStart_of_server
    (hvalue : ∀ name, sameLetters name "host".toList = false →
      headerValue name = f.headerValue name)
    (hheader : ∀ name ∈ e.requestHeaders, header name = f.header name)
    (hserver : server { f with
      header := header, headerValue := headerValue, serverAddress := serverAddress,
      serverPort := serverPort } = server f) :
    e.onStart { f with
      header := header, headerValue := headerValue, serverAddress := serverAddress,
      serverPort := serverPort } = e.onStart f := by
  refine onStart_congr (hvalue _ (by decide)) ?_ hserver ?_ hheader
  · simp only [clientAddress?, hvalue "forwarded".toList (by decide),
      hvalue "x-forwarded-for".toList (by decide)]
  · simp only [scheme, proxyScheme?, hvalue "forwarded".toList (by decide),
      hvalue "x-forwarded-proto".toList (by decide)]

end Extractor

namespace Http

/-- **Both forms of a target are described alike.** A request for an absolute URI without a `Host`
header and one for the path and query of it, with its authority as the `Host` header and on a
connection with the URI's scheme, have the same attributes, as far as no extractor records that
header. Their server is the authority's, with the connection's port where the authority has none that
can be read. -/
theorem target_forms_alike {e : Extractor}
    (hcaptured : ∀ name ∈ e.requestHeaders, sameLetters name "host".toList = false)
    {authority address : Text} {port : Option UInt16}
    (hbare : Authority.Bare authority address port)
    (tls : Bool) {method rest body : Text} {version : Version}
    {before after : List (Text × List UInt8)} {connection : Connection}
    {route : Option RouteHolder} {r : Request}
    (hhost : ∀ field ∈ before ++ after, sameLetters field.1 "host".toList = false)
    (hr : buildRequest method (schemeOf tls ++ "://".toList ++ authority ++ '/' :: rest) version
      (before ++ after) body (some connection) route = .ok r) :
    ∃ s, buildRequest method ('/' :: rest) version
        (before ++ ("Host".toList, utf8Encode authority) :: after) body
        (some { connection with tls := tls }) route = .ok s ∧
      e.onStart s.facts = e.onStart r.facts ∧
      Extractor.server s.facts = (some address, port.or (connection.server.map (·.port))) := by
  obtain ⟨hmethod, target, headers, htarget, hheaders, rfl⟩ := buildRequest_eq_ok_iff.1 hr
  obtain ⟨path, query, rfl, horigin⟩ := Uri.read_absolute hbare htarget
  have hreadable := readable?_of_bare hbare
  let host : Header := ⟨"host".toList, utf8Encode authority⟩
  have hfield : buildHeader "Host".toList (utf8Encode authority) = .ok host := by
    have hname : isHeaderName "Host".toList = true := by decide
    rw [buildHeader, hname, all_isValueByte hreadable]
    rfl
  obtain ⟨a, b, rfl, hinsert⟩ := buildHeaders_insert hheaders hfield
  let s : Request := ⟨method, .origin path query, version, a ++ host :: b, body,
    some { connection with tls := tls }, route⟩
  refine ⟨s, buildRequest_eq_ok_iff.2 ⟨hmethod, _, _, horigin, hinsert, rfl⟩, ?_⟩
  have hnone : ∀ h ∈ a ++ b, h.name ≠ lower "host".toList := name_ne_of_buildHeaders hheaders hhost
  have hlines : ∀ name, sameLetters name "host".toList = false →
      s.headers.lines name = Headers.lines (a ++ b) name := by
    intro name hname
    refine Headers.lines_insert_of_ne fun he => ?_
    rw [sameLetters_iff.2 he.symm] at hname
    cases hname
  obtain ⟨hself, hother⟩ : s.headers.lines "host".toList = [authority] ∧
      Headers.lines (a ++ b) "host".toList = [] :=
    Headers.lines_insert_self rfl hreadable hnone
  let r : Request := ⟨method, .absolute (schemeOf tls) authority path query, version, a ++ b, body,
    some connection, route⟩
  have hserver : Extractor.server r.facts =
      (some address, port.or (connection.server.map (·.port))) := server_of_target hbare rfl hother
  have hserver' : Extractor.server s.facts =
      (some address, port.or (connection.server.map (·.port))) := server_of_header hbare rfl hself
  refine ⟨?_, hserver'⟩
  exact Extractor.onStart_of_server (f := r.facts)
    (fun name hname => congrArg joinedHeader (hlines name hname))
    (fun name hname => congrArg (List.flatMap items) (hlines name (hcaptured name hname)))
    (hserver'.trans hserver.symm)

/-- An address in brackets and a port with a zero in front. -/
theorem target_forms_alike_literal :
    let authority := "[::1]:08080".toList
    let connection : Connection := ⟨none, none, false⟩
    let fields := [("accept".toList, utf8Encode "text/html".toList)]
    ∃ r s, buildRequest "GET".toList ("https://".toList ++ authority ++ "/a?b".toList) .v11 fields []
          (some connection) none = .ok r ∧
      buildRequest "GET".toList "/a?b".toList .v11
          (("Host".toList, utf8Encode authority) :: fields) []
          (some { connection with tls := true }) none = .ok s ∧
      Extractor.standard.onStart s.facts = Extractor.standard.onStart r.facts ∧
      Extractor.server s.facts = (some "::1".toList, some 8080) := by
  intro authority connection fields
  have hport : readUInt16 "08080".toList = some 8080 := by decide
  have hbare : Authority.Bare authority "::1".toList (some 8080) :=
    ⟨by decide, by decide, "[::1]".toList, ":08080".toList, rfl,
      @Authority.HostText.literal "::1".toList (by decide), hport ▸ .port (by decide)⟩
  obtain ⟨r, hr⟩ : ∃ r, buildRequest "GET".toList
      ("https://".toList ++ authority ++ "/a?b".toList) .v11 fields [] (some connection) none = .ok r :=
    ⟨_, rfl⟩
  have hnone : ∀ name ∈ Extractor.standard.requestHeaders, sameLetters name "host".toList = false :=
    fun name hname => absurd hname List.not_mem_nil
  have hhost : ∀ field ∈ [] ++ fields, sameLetters field.1 "host".toList = false := by decide
  obtain ⟨s, hs, hattributes, hserver⟩ := target_forms_alike hnone hbare true hhost hr
  exact ⟨r, s, hr, hs, hattributes, hserver⟩

end Http

end ServerTelemetry
