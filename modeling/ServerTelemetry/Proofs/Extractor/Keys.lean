import Mathlib.Data.List.Count
import Mathlib.Data.List.Nodup
import ServerTelemetry.Proofs.Extractor.Route

/-!
# The keys of attributes

Attributes are told apart by their keys, and keys by their names (`AttributeKey.name_injective`). The
attributes of a request and of an outcome have keys from a fixed list, in its order, and one for each
header to record (`keys_onStart`, `keys_onEnd`). `Attribute.select` picks attributes by their keys.
-/

namespace ServerTelemetry

open Text

/-! ## Names of keys -/

namespace AttributeKey

/-- The keys that are no header's. -/
def fixed : List AttributeKey :=
  [requestMethod, requestMethodOriginal, urlPath, urlQuery, urlScheme, userAgent, route,
    clientAddress, serverAddress, serverPort, peerAddress, peerPort, protocolName, protocolVersion,
    responseStatus, errorType]

theorem mem_fixed (key : AttributeKey) :
    key ∈ fixed ∨ (∃ name, key = requestHeader name) ∨ ∃ name, key = responseHeader name := by
  cases key with
  | requestHeader name => exact Or.inr (Or.inl ⟨name, rfl⟩)
  | responseHeader name => exact Or.inr (Or.inr ⟨name, rfl⟩)
  | _ => exact Or.inl (by decide)

theorem take_name_of_mem_fixed {key : AttributeKey} (h : key ∈ fixed) :
    key.name.take 20 ≠ "http.request.header.".toList ∧
      key.name.take 21 ≠ "http.response.header.".toList :=
  (by decide +kernel : ∀ key ∈ fixed, key.name.take 20 ≠ "http.request.header.".toList ∧
    key.name.take 21 ≠ "http.response.header.".toList) key h

/-- **Keys are told apart by their names**: no other key begins like those of headers. -/
theorem name_injective : Function.Injective name := by
  have htake : ∀ n, (requestHeader n).name.take 20 = "http.request.header.".toList := fun n => rfl
  have htake' : ∀ n, (responseHeader n).name.take 21 = "http.response.header.".toList :=
    fun n => rfl
  have hapart : ∀ n m, (requestHeader n).name ≠ (responseHeader m).name := by
    intro n m h
    have hbegin : "http.req".toList = "http.res".toList := congrArg (·.take 8) h
    exact absurd hbegin (by decide)
  have hfixed : (fixed.map name).Nodup := by decide +kernel
  intro a b h
  rcases mem_fixed a with ha | ⟨n, rfl⟩ | ⟨n, rfl⟩ <;>
    rcases mem_fixed b with hb | ⟨m, rfl⟩ | ⟨m, rfl⟩
  · exact List.inj_on_of_nodup_map hfixed ha hb h
  · exact absurd (htake m) (h ▸ (take_name_of_mem_fixed ha).1)
  · exact absurd (htake' m) (h ▸ (take_name_of_mem_fixed ha).2)
  · exact absurd (htake n) (h ▸ (take_name_of_mem_fixed hb).1)
  · rw [List.append_cancel_left h]
  · exact absurd h (hapart n m)
  · exact absurd (htake' n) (h ▸ (take_name_of_mem_fixed hb).2)
  · exact absurd h.symm (hapart m n)
  · rw [List.append_cancel_left h]

end AttributeKey

/-! ## Attributes by their keys -/

namespace Attribute

/-- The keys of attributes, in order. -/
def keys (attributes : List Attribute) : List AttributeKey :=
  attributes.map (·.key)

/-- The attributes whose keys satisfy `p`. -/
def select (p : AttributeKey → Bool) (attributes : List Attribute) : List Attribute :=
  attributes.filter fun a => p a.key

theorem keys_append (a b : List Attribute) : keys (a ++ b) = keys a ++ keys b :=
  List.map_append ..

theorem keys_text? (key : AttributeKey) (value : Option Text) :
    (keys (text? key value)).Sublist [key] := by
  cases value with
  | none => exact List.nil_sublist _
  | some value => exact List.Sublist.refl _

theorem keys_filled (key : AttributeKey) (value : Text) :
    (keys (filled key value)).Sublist [key] :=
  keys_text? ..

theorem keys_number? (key : AttributeKey) (value : Option Nat) :
    (keys (number? key value)).Sublist [key] := by
  cases value with
  | none => exact List.nil_sublist _
  | some value => exact List.Sublist.refl _

theorem keys_headers (key : Text → AttributeKey) (names : List Text)
    (values : Text → List Text) :
    (keys (names.flatMap fun name => texts (key name) (values name))).Sublist (names.map key) := by
  induction names with
  | nil => exact List.Sublist.refl _
  | cons name names ih =>
    have hname : (keys (texts (key name) (values name))).Sublist [key name] := by
      unfold texts
      split
      · exact List.nil_sublist _
      · exact List.Sublist.refl _
    rw [List.flatMap_cons, keys_append, List.map_cons]
    exact hname.append ih

variable {p : AttributeKey → Bool}

theorem select_append (a b : List Attribute) : select p (a ++ b) = select p a ++ select p b :=
  List.filter_append ..

theorem mem_select_key {key : AttributeKey} {value : AttributeValue} {attributes : List Attribute} :
    ⟨key, value⟩ ∈ select (· == key) attributes ↔ ⟨key, value⟩ ∈ attributes := by
  simp [select]

theorem select_of_keys {key : AttributeKey} {attributes : List Attribute}
    (h : ∀ a ∈ attributes, a.key = key) :
    select p attributes = if p key then attributes else [] := by
  split
  · next hp => exact List.filter_eq_self.2 fun a ha => by rw [h a ha, hp]
  · next hp => exact List.filter_eq_nil_iff.2 fun a ha => by rw [h a ha]; exact hp

theorem select_text? (key : AttributeKey) (value : Option Text) :
    select p (text? key value) = if p key then text? key value else [] :=
  select_of_keys fun _ => key_of_mem_text?

theorem select_filled (key : AttributeKey) (value : Text) :
    select p (filled key value) = if p key then filled key value else [] :=
  select_text? ..

theorem select_number? (key : AttributeKey) (value : Option Nat) :
    select p (number? key value) = if p key then number? key value else [] :=
  select_of_keys fun _ => key_of_mem_number?

theorem select_headers {key : Text → AttributeKey} (hkey : ∀ name, p (key name) = false)
    (names : List Text) (values : Text → List Text) :
    select p (names.flatMap fun name => texts (key name) (values name)) = [] := by
  refine List.filter_eq_nil_iff.2 fun a ha => ?_
  obtain ⟨name, -, hname⟩ := List.mem_flatMap.1 ha
  rw [key_of_mem_texts hname, hkey]
  exact Bool.false_ne_true

end Attribute

/-! ## Keys of a request and of an outcome -/

namespace Extractor

open Attribute

/-- The keys of what is known when a request without a route arrives, headers apart. -/
def startKeys : List AttributeKey :=
  [.requestMethod, .requestMethodOriginal, .urlPath, .urlQuery, .userAgent, .clientAddress,
    .serverAddress, .serverPort, .peerAddress, .peerPort, .protocolName, .protocolVersion,
    .urlScheme]

theorem keys_methodAttributes (e : Extractor) (r : RequestFacts) :
    (keys (e.methodAttributes r)).Sublist [.requestMethod, .requestMethodOriginal] := by
  unfold methodAttributes
  split
  · exact (List.nil_sublist _).cons_cons _
  · exact List.Sublist.refl _

theorem select_methodAttributes {p : AttributeKey → Bool} (hmethod : p .requestMethod = false)
    (horiginal : p .requestMethodOriginal = false) (e : Extractor) (r : RequestFacts) :
    select p (e.methodAttributes r) = [] := by
  unfold methodAttributes
  split <;> simp [select, hmethod, horiginal]

/-- The attributes of a request whose keys are picked, if these are no method's and no header's. -/
theorem select_onStart {p : AttributeKey → Bool} (hmethod : p .requestMethod = false)
    (horiginal : p .requestMethodOriginal = false) (hheader : ∀ name, p (.requestHeader name) = false)
    (e : Extractor) (r : RequestFacts) :
    select p (e.onStart r) =
      (if p .urlPath then filled .urlPath r.path else [])
      ++ (if p .urlQuery then filled .urlQuery r.query else [])
      ++ (if p .userAgent then text? .userAgent (r.headerValue "user-agent".toList) else [])
      ++ (if p .route then text? .route (r.route.bind nonEmpty?) else [])
      ++ (if p .clientAddress then text? .clientAddress (clientAddress? r) else [])
      ++ (if p .serverAddress then text? .serverAddress (server r).1 else [])
      ++ (if p .serverPort then number? .serverPort ((e.reportedPort? r).map UInt16.toNat) else [])
      ++ (if p .peerAddress then text? .peerAddress r.peerAddress else [])
      ++ (if p .peerPort then number? .peerPort (r.peerPort.map UInt16.toNat) else [])
      ++ (if p .protocolName then
          text? .protocolName (r.protocolName.filter (! sameLetters · "http".toList)) else [])
      ++ (if p .protocolVersion then text? .protocolVersion r.protocolVersion else [])
      ++ (if p .urlScheme then filled .urlScheme (e.scheme r) else []) := by
  simp only [onStart, select_append, select_methodAttributes hmethod horiginal, select_filled,
    select_text?, select_number?, select_headers hheader, List.nil_append, List.append_nil]

theorem select_userAgent_onStart (e : Extractor) (r : RequestFacts) :
    select (· == .userAgent) (e.onStart r) =
      text? .userAgent (r.headerValue "user-agent".toList) := by
  rw [select_onStart rfl rfl fun _ => rfl]
  simp

theorem select_clientAddress_onStart (e : Extractor) (r : RequestFacts) :
    select (· == .clientAddress) (e.onStart r) = text? .clientAddress (clientAddress? r) := by
  rw [select_onStart rfl rfl fun _ => rfl]
  simp

theorem select_serverPort_onStart (e : Extractor) (r : RequestFacts) :
    select (· == .serverPort) (e.onStart r) =
      number? .serverPort ((e.reportedPort? r).map UInt16.toNat) := by
  rw [select_onStart rfl rfl fun _ => rfl]
  simp

theorem select_urlScheme_onStart (e : Extractor) (r : RequestFacts) :
    select (· == .urlScheme) (e.onStart r) = filled .urlScheme (e.scheme r) := by
  rw [select_onStart rfl rfl fun _ => rfl]
  simp

open AttributeKey in
theorem keys_onStart (e : Extractor) {r : RequestFacts} (hr : r.route = none) :
    (keys (e.onStart r)).Sublist (startKeys ++ e.requestHeaders.map .requestHeader) := by
  have hroute : text? .route (r.route.bind nonEmpty?) = [] := by rw [hr]; rfl
  have hstart : startKeys = [requestMethod, requestMethodOriginal] ++ [urlPath] ++ [urlQuery]
      ++ [userAgent] ++ [clientAddress] ++ [serverAddress] ++ [serverPort] ++ [peerAddress]
      ++ [peerPort] ++ [protocolName] ++ [protocolVersion] ++ [urlScheme] := rfl
  simp only [onStart, hroute, List.append_nil, keys_append, hstart]
  exact ((((((((((((keys_methodAttributes ..).append (keys_filled ..)).append (keys_filled ..)).append
    (keys_text? ..)).append (keys_text? ..)).append (keys_text? ..)).append (keys_number? ..)).append
    (keys_text? ..)).append (keys_number? ..)).append (keys_text? ..)).append
    (keys_text? ..)).append (keys_filled ..)).append (keys_headers ..)

theorem keys_onEnd (e : Extractor) (response : Option ResponseFacts) (error route : Option Text) :
    (keys (e.onEnd response error route)).Sublist
      ([.responseStatus, .errorType] ++ e.responseHeaders.map .responseHeader ++ [.route]) := by
  have hheaders : (keys (response.toList.flatMap fun response => e.responseHeaders.flatMap
      fun name => texts (.responseHeader name) (response.header name))).Sublist
        (e.responseHeaders.map .responseHeader) := by
    cases response with
    | none => exact List.nil_sublist _
    | some response =>
      rw [Option.toList_some, List.flatMap_singleton]
      exact keys_headers ..
  simp only [onEnd, keys_append]
  exact (((keys_number? ..).append (keys_text? ..)).append hheaders).append (keys_text? ..)

/-- The keys that attributes of a request and its outcome can have, as often as they can occur. -/
def spanKeys (e : Extractor) : List AttributeKey :=
  startKeys ++ e.requestHeaders.map .requestHeader ++
    ([.responseStatus, .errorType] ++ e.responseHeaders.map .responseHeader ++ [.route])

/-- How often a key can occur: a header's as often as the header is named, any other once. -/
def timesNamed (e : Extractor) : AttributeKey → Nat
  | .requestHeader name => e.requestHeaders.count name
  | .responseHeader name => e.responseHeaders.count name
  | _ => 1

theorem count_spanKeys_le (e : Extractor) (key : AttributeKey) :
    e.spanKeys.count key ≤ e.timesNamed key := by
  have hrequest : Function.Injective AttributeKey.requestHeader :=
    fun _ _ h => AttributeKey.requestHeader.inj h
  have hresponse : Function.Injective AttributeKey.responseHeader :=
    fun _ _ h => AttributeKey.responseHeader.inj h
  have hzero : ∀ (f : Text → AttributeKey) (names : List Text), (∀ name, f name ≠ key) →
      (names.map f).count key = 0 := by
    intro f names hne
    refine List.count_eq_zero.2 fun hmem => ?_
    obtain ⟨name, -, he⟩ := List.mem_map.1 hmem
    exact hne name he
  simp only [spanKeys, List.count_append]
  cases key with
  | requestHeader name =>
    rw [List.count_map_of_injective _ _ hrequest, hzero _ _ fun _ => AttributeKey.noConfusion]
    simp [startKeys, timesNamed]
  | responseHeader name =>
    rw [List.count_map_of_injective _ _ hresponse, hzero _ _ fun _ => AttributeKey.noConfusion]
    simp [startKeys, timesNamed]
  | _ =>
    rw [hzero _ _ fun _ => AttributeKey.noConfusion, hzero _ _ fun _ => AttributeKey.noConfusion]
    change _ ≤ 1
    decide

theorem timesNamed_le_one {e : Extractor} (hrequest : e.requestHeaders.Nodup)
    (hresponse : e.responseHeaders.Nodup) (key : AttributeKey) : e.timesNamed key ≤ 1 := by
  cases key with
  | requestHeader name => exact List.nodup_iff_count_le_one.1 hrequest name
  | responseHeader name => exact List.nodup_iff_count_le_one.1 hresponse name
  | _ => exact Nat.le_refl 1

end Extractor

end ServerTelemetry
