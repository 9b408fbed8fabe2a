import ServerTelemetry.Proofs.Extractor.Keys
import ServerTelemetry.Proofs.Http.AbsoluteUrl
import ServerTelemetry.Proofs.Http.Message

/-!
# Ports that a scheme implies

A scheme implies its port in any case (`impliedPort?`), but the port is left out of what is recorded
only if the scheme is in lower case (`isDefaultPort_iff`). A request has the schemes of HTTP in lower
case, however its target writes them (`Http.lower_scheme_of_buildRequest`). So an implied port is
recorded under the schemes that proxies name with capitals, and under no others
(`implied_ports_recorded`).
-/

namespace ServerTelemetry

open Text

variable {scheme : Text} {port : UInt16}

/-! ## Implied ports -/

/-- The port that a scheme implies, in any case. -/
def impliedPort? (scheme : Text) : Option UInt16 :=
  if sameLetters scheme "http".toList then some 80
  else if sameLetters scheme "https".toList then some 443
  else none

theorem impliedPort?_eq_some_iff : impliedPort? scheme = some port ↔
    lower scheme = "http".toList ∧ port = 80 ∨ lower scheme = "https".toList ∧ port = 443 := by
  have hlower : lower "http".toList = "http".toList ∧ lower "https".toList = "https".toList := by
    decide
  unfold impliedPort?
  simp only [sameLetters_iff, hlower]
  split
  · next hhttp =>
    have hne : lower scheme ≠ "https".toList := by
      rw [hhttp]
      decide
    rw [or_iff_left fun h => hne h.1, Option.some_inj, eq_comm, and_iff_right hhttp]
  · next hhttp =>
    rw [or_iff_right fun h => hhttp h.1, Option.ite_none_right_eq_some, Option.some_inj,
      eq_comm (b := port)]

theorem isDefaultPort_iff :
    isDefaultPort scheme port = true ↔ impliedPort? scheme = some port ∧ lower scheme = scheme := by
  rw [impliedPort?_eq_some_iff]
  simp only [isDefaultPort, Bool.or_eq_true, Bool.and_eq_true, beq_iff_eq]
  constructor
  · rintro (⟨rfl, rfl⟩ | ⟨rfl, rfl⟩)
    · exact ⟨Or.inl ⟨by decide, rfl⟩, by decide⟩
    · exact ⟨Or.inr ⟨by decide, rfl⟩, by decide⟩
  · rintro ⟨hport, hlower⟩
    rwa [hlower] at hport

/-! ## Schemes of requests -/

namespace Http

/-- Targets are read with the schemes of HTTP in lower case. -/
theorem Uri.lower_schemeForm (h : impliedPort? (schemeForm scheme) = some port) :
    lower (schemeForm scheme) = schemeForm scheme := by
  unfold schemeForm at h ⊢
  split
  · rw [lower_lower]
  · next hother =>
    rw [if_neg hother] at h
    rcases impliedPort?_eq_some_iff.1 h with ⟨hhttp, -⟩ | ⟨hhttps, -⟩
    · exact absurd (Or.inl hhttp) hother
    · exact absurd (Or.inr hhttps) hother

theorem lower_scheme_of_buildRequest {method uri body : Text} {version : Version}
    {fields : List (Text × List UInt8)} {connection : Option Connection}
    {route : Option RouteHolder} {r : Request}
    (hr : buildRequest method uri version fields body connection route = .ok r)
    (h : impliedPort? r.scheme = some port) : lower r.scheme = r.scheme := by
  obtain ⟨-, target, headers, htarget, -, rfl⟩ := buildRequest_eq_ok_iff.1 hr
  have hconnection : ∀ tls : Bool, lower (if tls then "https".toList else "http".toList) =
      if tls then "https".toList else "http".toList := by decide
  cases target with
  | absolute scheme authority path query =>
    obtain ⟨-, u, -, -, hu⟩ := Uri.read_eq_absolute_iff.1 htarget
    obtain ⟨rfl, -⟩ := Uri.absolute.inj hu
    exact Uri.lower_schemeForm h
  | origin | asterisk | lone => exact hconnection _

end Http

/-! ## Ports that are recorded -/

namespace Extractor

open Attribute

variable {e : Extractor} {r : RequestFacts}

theorem mem_urlScheme_iff :
    ⟨.urlScheme, .text scheme⟩ ∈ e.onStart r ↔ e.scheme r = scheme ∧ scheme ≠ [] := by
  rw [← mem_select_key, select_urlScheme_onStart, filled, text?]
  simp [nonEmpty?_eq_some_iff]

theorem mem_serverPort_iff :
    ⟨.serverPort, .number port.toNat⟩ ∈ e.onStart r ↔ e.reportedPort? r = some port := by
  rw [← mem_select_key, select_serverPort_onStart, number?]
  simp [UInt16.toNat_inj]

theorem mem_serverPort_of_urlScheme (h : ⟨.urlScheme, .text scheme⟩ ∈ e.onStart r) :
    ⟨.serverPort, .number port.toNat⟩ ∈ e.onStart r ↔
      (server r).2 = some port ∧ (impliedPort? scheme = some port → lower scheme ≠ scheme) := by
  obtain ⟨rfl, -⟩ := mem_urlScheme_iff.1 h
  rw [mem_serverPort_iff, reportedPort?, Option.filter_eq_some_iff, Bool.not_eq_true',
    ← Bool.not_eq_true, isDefaultPort_iff, not_and]

/-- A scheme is the request's own, or a proxy that is trusted names it. -/
theorem scheme_cases (e : Extractor) (r : RequestFacts) :
    e.scheme r = r.scheme ∨ e.preferForwardedScheme = true ∧ proxyScheme? r = some (e.scheme r) := by
  rw [scheme]
  cases e.preferForwardedScheme with
  | false => exact Or.inl rfl
  | true =>
    cases proxyScheme? r with
    | none => exact Or.inl rfl
    | some proxied => exact Or.inr ⟨rfl, rfl⟩

/-- **A port that the recorded scheme implies is recorded** exactly if the scheme is not in lower
case, and every other port is. Of a request that was built this happens only where proxies are trusted
with the scheme and one of them names it like that. -/
theorem implied_ports_recorded (e : Extractor) :
    (∀ (r : RequestFacts) scheme port, ⟨.urlScheme, .text scheme⟩ ∈ e.onStart r →
      (⟨.serverPort, .number (UInt16.toNat port)⟩ ∈ e.onStart r ↔ (server r).2 = some port ∧
        (impliedPort? scheme = some port → lower scheme ≠ scheme))) ∧
    ∀ method uri version fields body connection route (r : Http.Request) scheme port,
      Http.buildRequest method uri version fields body connection route = .ok r →
      ⟨.urlScheme, .text scheme⟩ ∈ e.onStart r.facts →
      ⟨.serverPort, .number (UInt16.toNat port)⟩ ∈ e.onStart r.facts →
      impliedPort? scheme = some port →
      e.preferForwardedScheme = true ∧ proxyScheme? r.facts = some scheme ∧ lower scheme ≠ scheme := by
  refine ⟨fun r scheme port => mem_serverPort_of_urlScheme, ?_⟩
  intro method uri version fields body connection route r scheme port hr hscheme hport himplied
  have hcapital : lower scheme ≠ scheme :=
    ((mem_serverPort_of_urlScheme hscheme).1 hport).2 himplied
  obtain ⟨rfl, -⟩ := mem_urlScheme_iff.1 hscheme
  rcases e.scheme_cases r.facts with hown | ⟨hprefer, hproxy⟩
  · -- The request's own scheme is in lower case.
    rw [hown] at hcapital himplied
    exact absurd (Http.lower_scheme_of_buildRequest hr himplied) hcapital
  · exact ⟨hprefer, hproxy, hcapital⟩

/-- A proxy that writes `HTTP` has port 80 recorded. -/
theorem implied_ports_recorded_proxied :
    let e := { standard with preferForwardedScheme := true }
    let bytes : Text → List UInt8 := List.map fun c => UInt8.ofNat c.toNat
    let headers : Http.Headers :=
      [⟨"host".toList, bytes "a:80".toList⟩, ⟨"x-forwarded-proto".toList, bytes "HTTP".toList⟩]
    let r : Http.Request :=
      ⟨"GET".toList, .absolute "http".toList "a".toList "/".toList none, .v11, headers, [], none, none⟩
    Http.buildRequest "GET".toList "HTTP://a".toList .v11
        (headers.map fun header => (header.name, header.value)) [] none none = .ok r ∧
      ⟨.urlScheme, .text "HTTP".toList⟩ ∈ e.onStart r.facts ∧
      ⟨.serverPort, .number 80⟩ ∈ e.onStart r.facts ∧
      impliedPort? "HTTP".toList = some 80 ∧ proxyScheme? r.facts = some "HTTP".toList := by
  intro e bytes headers r
  obtain ⟨hports, hproxied⟩ := implied_ports_recorded e
  have hr : Http.buildRequest "GET".toList "HTTP://a".toList .v11
      (headers.map fun header => (header.name, header.value)) [] none none = .ok r := by decide
  have hscheme : ⟨.urlScheme, .text "HTTP".toList⟩ ∈ e.onStart r.facts := by decide
  have hport := (hports r.facts _ 80 hscheme).2 (by decide)
  exact ⟨hr, hscheme, hport, by decide,
    (hproxied _ _ _ _ _ _ _ r _ 80 hr hscheme hport (by decide)).2.1⟩

/-- Port 443 is recorded with the scheme `HTTPS`. -/
theorem default_port_recorded :
    ¬ ∀ (e : Extractor) (r : Http.Request) scheme port,
      ⟨.urlScheme, .text scheme⟩ ∈ e.onStart r.facts →
      ⟨.serverPort, .number (UInt16.toNat port)⟩ ∈ e.onStart r.facts →
      impliedPort? scheme ≠ some port := by
  intro hleft
  let bytes : Text → List UInt8 := List.map fun c => UInt8.ofNat c.toNat
  let r : Http.Request :=
    ⟨"GET".toList, .origin "/".toList none, .v11,
      [⟨"host".toList, bytes "example.com:443".toList⟩,
        ⟨"forwarded".toList, bytes "proto=HTTPS".toList⟩], [], none, none⟩
  exact hleft { standard with preferForwardedScheme := true } r "HTTPS".toList 443 (by decide)
    (by decide) (by decide)

end Extractor

end ServerTelemetry
