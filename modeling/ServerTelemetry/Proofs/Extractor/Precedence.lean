import ServerTelemetry.Proofs.Extractor.Keys

/-!
# Which header an attribute is taken from

The client's address and, where proxies are trusted with it, the scheme are taken from the first
header that says something, else from the request itself (`TakenFrom`). What stands below a header
that is used has no part in the attribute, and a header that cannot be used is as good as none: the
request has the same attribute without it (`sources_in_order`).
-/

namespace ServerTelemetry

open Text

/-! ## Headers as sources -/

/-- A header that an attribute can be taken from. -/
structure HeaderSource where
  name : Text
  /-- What the header as it was sent says, if it can be used. -/
  read : Text → Option Text

namespace HeaderSource

/-- What a request says in the header, if it has it and the header can be used. -/
def said (source : HeaderSource) (r : RequestFacts) : Option Text :=
  (r.headerValue source.name).bind source.read

/-- The headers that name the client, the one that counts first in front. -/
def client : List HeaderSource :=
  [⟨"forwarded".toList, Forwarded.client?⟩, ⟨"x-forwarded-for".toList, Forwarded.plainClient?⟩]

/-- The headers that name the scheme, the one that counts first in front. -/
def scheme : List HeaderSource :=
  [⟨"forwarded".toList, Forwarded.scheme?⟩, ⟨"x-forwarded-proto".toList, Forwarded.plainScheme?⟩]

theorem said_congr {source : HeaderSource} {r s : RequestFacts}
    (h : s.headerValue source.name = r.headerValue source.name) : source.said s = source.said r := by
  rw [said, said, h]

theorem said_of_none {source : HeaderSource} {r : RequestFacts}
    (h : r.headerValue source.name = none) : source.said r = none := by
  rw [said, h, Option.bind_none]

end HeaderSource

/-! ## The first source -/

namespace Extractor

open Attribute

/-- What is recorded of a request under a key. -/
def recorded (e : Extractor) (key : AttributeKey) (r : RequestFacts) : List Attribute :=
  select (· == key) (e.onStart r)

/-- An attribute is taken from the first of some headers that says something, else from the request
itself. -/
structure TakenFrom (e : Extractor) (key : AttributeKey) (sources : List HeaderSource)
    (own : RequestFacts → Option Text) : Prop where
  header : ∀ before source after (r : RequestFacts) value,
    sources = before ++ source :: after → (∀ s ∈ before, s.said r = none) →
    source.said r = some value → e.recorded key r = [⟨key, .text value⟩]
  request : ∀ r, (∀ s ∈ sources, s.said r = none) → e.recorded key r = text? key (own r)
  /-- Nothing below a header that says something counts. -/
  below : ∀ before source after (r s : RequestFacts),
    sources = before ++ source :: after → (source.said r).isSome →
    (∀ above ∈ before ++ [source], s.headerValue above.name = r.headerValue above.name) →
    e.recorded key s = e.recorded key r
  /-- A header that says nothing is as good as none. -/
  unusable : ∀ r s : RequestFacts, own s = own r →
    (∀ source ∈ sources, s.headerValue source.name = r.headerValue source.name ∨
      source.said r = none ∧ s.headerValue source.name = none) →
    e.recorded key s = e.recorded key r

variable {e : Extractor} {key : AttributeKey} {sources : List HeaderSource}
  {own : RequestFacts → Option Text}

theorem findSome?_said_of_none {r : RequestFacts} (h : ∀ s ∈ sources, s.said r = none) :
    sources.findSome? (·.said r) = none :=
  List.findSome?_eq_none_iff.2 h

theorem findSome?_said_congr {r s : RequestFacts}
    (h : ∀ source ∈ sources, source.said s = source.said r) :
    sources.findSome? (·.said s) = sources.findSome? (·.said r) := by
  have hmap : ∀ r : RequestFacts, sources.findSome? (·.said r) =
      (sources.map (·.said r)).findSome? id := fun r => by rw [List.findSome?_map]; rfl
  rw [hmap, hmap, List.map_congr_left h]

theorem takenFrom
    (h : ∀ r, e.recorded key r = text? key ((sources.findSome? (·.said r)).or (own r))) :
    e.TakenFrom key sources own where
  header := by
    rintro before source after r value rfl hbefore hsource
    rw [h, List.findSome?_append, findSome?_said_of_none hbefore, Option.none_or,
      List.findSome?_cons, hsource, Option.some_or]
    rfl
  request := by
    intro r hnone
    rw [h, findSome?_said_of_none hnone, Option.none_or]
  below := by
    rintro before source after r s rfl hsome hsame
    have hfound := findSome?_said_congr fun above habove => HeaderSource.said_congr (hsame above habove)
    -- Down to the source something is said, so the search ends there.
    have hended : ((before ++ [source]).findSome? (·.said r)).isSome := by
      rw [List.findSome?_isSome_iff]
      exact ⟨source, by simp, hsome⟩
    have hsplit : ∀ r : RequestFacts, (before ++ source :: after).findSome? (·.said r) =
        ((before ++ [source]).findSome? (·.said r)).or (after.findSome? (·.said r)) := by
      intro r
      rw [← List.findSome?_append, List.append_assoc, List.singleton_append]
    obtain ⟨value, hvalue⟩ := Option.isSome_iff_exists.1 hended
    rw [h, h, hsplit, hsplit, hfound, hvalue]
    rfl
  unusable := by
    intro r s hown hsame
    rw [h, h, hown, findSome?_said_congr]
    intro source hsource
    rcases hsame source hsource with hsame | ⟨hnone, habsent⟩
    · exact HeaderSource.said_congr hsame
    · rw [hnone, HeaderSource.said_of_none habsent]

theorem findSome?_said_pair (first second : HeaderSource) (r : RequestFacts) :
    [first, second].findSome? (·.said r) = (first.said r).or (second.said r) := by
  rw [List.findSome?_cons, List.findSome?_singleton]
  cases first.said r <;> rfl

theorem takenFrom_client (e : Extractor) :
    e.TakenFrom .clientAddress HeaderSource.client (·.peerAddress) := by
  refine takenFrom fun r => ?_
  have hclient : (HeaderSource.client.findSome? (·.said r)).or r.peerAddress = clientAddress? r := by
    rw [HeaderSource.client, findSome?_said_pair, Option.or_assoc]
    rfl
  rw [recorded, select_clientAddress_onStart, hclient]

/-- The headers that an extractor takes the scheme from: none, unless proxies are trusted with it. -/
def schemeSources (e : Extractor) : List HeaderSource :=
  if e.preferForwardedScheme then HeaderSource.scheme else []

theorem findSome?_scheme (r : RequestFacts) :
    HeaderSource.scheme.findSome? (·.said r) = proxyScheme? r :=
  findSome?_said_pair _ _ r

/-- No proxy names an empty scheme. -/
theorem nonEmpty?_of_proxyScheme? {r : RequestFacts} {scheme : Text}
    (h : proxyScheme? r = some scheme) : nonEmpty? scheme = some scheme := by
  have hread : ∃ s, nonEmpty? s = some scheme := by
    rcases Option.or_eq_some_iff.1 h with h | ⟨-, h⟩
    · obtain ⟨value, -, h⟩ := Option.bind_eq_some_iff.1 h
      obtain ⟨parameter, -, h⟩ := Option.bind_eq_some_iff.1 h
      exact ⟨_, h⟩
    · obtain ⟨value, -, h⟩ := Option.bind_eq_some_iff.1 h
      exact ⟨_, h⟩
  obtain ⟨s, hs⟩ := hread
  obtain ⟨rfl, -⟩ := nonEmpty?_eq_some_iff.1 hs
  exact hs

theorem takenFrom_scheme (e : Extractor) :
    e.TakenFrom .urlScheme e.schemeSources (nonEmpty? ·.scheme) := by
  refine takenFrom fun r => ?_
  have hscheme : (e.schemeSources.findSome? (·.said r)).or (nonEmpty? r.scheme) =
      nonEmpty? (e.scheme r) := by
    rw [schemeSources, scheme]
    cases e.preferForwardedScheme with
    | false => rfl
    | true =>
      simp only [↓reduceIte, findSome?_scheme]
      cases h : proxyScheme? r with
      | none => rfl
      | some proxied => exact (nonEmpty?_of_proxyScheme? h).symm
  rw [recorded, select_urlScheme_onStart, hscheme, filled]

/-- **Forwarded data have an order**: the client is taken from `Forwarded`, then `X-Forwarded-For`,
then the peer, and the scheme, where proxies are trusted with it, from `Forwarded`, then
`X-Forwarded-Proto`, then the request. -/
theorem sources_in_order (e : Extractor) :
    e.TakenFrom .clientAddress HeaderSource.client (·.peerAddress) ∧
      e.TakenFrom .urlScheme e.schemeSources (nonEmpty? ·.scheme) :=
  ⟨e.takenFrom_client, e.takenFrom_scheme⟩

/-- A request that came through proxies, from a peer, with a value of `Forwarded`. -/
def proxied (forwarded : Option Text) (peer : Text) : RequestFacts where
  method := "GET".toList
  header name :=
    if name = "forwarded".toList then forwarded.toList
    else if name = "x-forwarded-for".toList then ["2.2.2.2, 10.0.0.1".toList] else []
  scheme := "http".toList
  path := "/".toList
  query := []
  peerAddress := some peer

/-- `Forwarded` names the scheme but no client, so that comes from `X-Forwarded-For`, from any peer
and without `Forwarded` as well. -/
theorem sources_in_order_proxied :
    let e := { standard with preferForwardedScheme := true }
    let r := proxied (some "for=;proto=https".toList) "10.0.0.2".toList
    e.recorded .urlScheme r = [⟨.urlScheme, .text "https".toList⟩] ∧
      e.recorded .clientAddress r = [⟨.clientAddress, .text "2.2.2.2".toList⟩] ∧
      e.recorded .clientAddress (proxied (some "for=;proto=https".toList) "10.0.0.3".toList) =
        e.recorded .clientAddress r ∧
      e.recorded .clientAddress (proxied none "10.0.0.2".toList) = e.recorded .clientAddress r := by
  intro e r
  obtain ⟨hclient, hscheme⟩ := sources_in_order e
  refine ⟨hscheme.header [] _ _ r _ rfl (by simp) (by decide),
    hclient.header [_] _ [] r _ rfl (by decide) (by decide),
    hclient.below [_] _ [] r _ rfl (by decide) (by decide),
    hclient.unusable r _ rfl (by decide)⟩

end Extractor

end ServerTelemetry
