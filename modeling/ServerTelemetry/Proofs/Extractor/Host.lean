import ServerTelemetry.Extractor
import ServerTelemetry.Proofs.Text.Number
import ServerTelemetry.Proofs.Text.Padded

/-!
# Hosts that are read

A host is an address in brackets with anything behind them, or an address in front of the last colon,
or an address alone (`HostParts`); only a bracket that is not closed is none of these
(`hostParts_or_unclosed`). So what is read of a text is said by its parts
(`splitHostAndPort_eq_some_iff`), and a host that is written with a port, or without one, is read back
whatever blanks are around it (`hosts_read`).
-/

namespace ServerTelemetry

open Text

variable {s address port text : Text} {p : UInt16}

/-! ## Ports -/

theorem readUInt16_eq_some_iff : readUInt16 text = some p ↔ Numeral text p.toNat := by
  rw [readUInt16, Option.map_eq_some_iff]
  constructor
  · rintro ⟨n, hn, rfl⟩
    obtain ⟨hnumeral, hlt⟩ := readNat_ten_eq_some_iff.1 hn
    rwa [UInt16.toNat_ofNat_of_lt' hlt]
  · intro h
    exact ⟨p.toNat, readNat_ten_eq_some_iff.2 ⟨h, p.toNat_lt⟩, UInt16.ofNat_toNat⟩

theorem readUInt16_decimal (p : UInt16) : readUInt16 (decimal p.toNat) = some p :=
  readUInt16_eq_some_iff.2 ⟨_, Or.inl rfl, digits_decimal p.toNat⟩

/-- A number that is no port is too large. -/
theorem readUInt16_eq_none (h : ∀ n, Numeral text n → UInt16.size ≤ n) : readUInt16 text = none := by
  refine Option.eq_none_iff_forall_ne_some.2 fun p hp => ?_
  exact absurd p.toNat_lt (Nat.not_lt.2 (h _ (readUInt16_eq_some_iff.1 hp)))

theorem notMem_decimal (p : UInt16) {c : Char} (hc : c.isDigit = false) : c ∉ decimal p.toNat := by
  intro hmem
  rw [(digits_decimal p.toNat).isDigit c hmem] at hc
  cases hc

/-! ## Parts of a host -/

/-- A text as the address in it and the text of a port, if there is one. -/
inductive HostParts : Text → Text → Option Text → Prop
  | name {address : Text} (opening : address.head? ≠ some '[') (colon : ':' ∉ address) :
    HostParts address address none
  | nameWithPort {address port : Text} (opening : address.head? ≠ some '[') (colon : ':' ∉ port) :
    HostParts (address ++ ':' :: port) address (some port)
  | brackets {address rest : Text} (closing : ']' ∉ address) (colon : rest.head? ≠ some ':') :
    HostParts ('[' :: address ++ ']' :: rest) address none
  | bracketsWithPort {address port : Text} (closing : ']' ∉ address) :
    HostParts ('[' :: address ++ ']' :: ':' :: port) address (some port)

theorem hostParts_or_unclosed (s : Text) :
    (∃ address port, HostParts s address port) ∨ ∃ inner, s = '[' :: inner ∧ ']' ∉ inner := by
  by_cases hopen : s.head? = some '['
  · obtain ⟨inner, rfl⟩ := List.head?_eq_some_iff.1 hopen
    cases hcut : cut ']' inner with
    | none => exact Or.inr ⟨inner, rfl, cut_eq_none_iff.1 hcut⟩
    | some parts =>
      obtain ⟨address, rest⟩ := parts
      obtain ⟨rfl, hclose⟩ := cut_eq_some_iff.1 hcut
      refine Or.inl ?_
      by_cases hcolon : rest.head? = some ':'
      · obtain ⟨port, rfl⟩ := List.head?_eq_some_iff.1 hcolon
        exact ⟨address, some port, .bracketsWithPort hclose⟩
      · exact ⟨address, none, .brackets hclose hcolon⟩
  · refine Or.inl ?_
    cases hcut : cutLast ':' s with
    | none => exact ⟨s, none, .name hopen (cutLast_eq_none_iff.1 hcut)⟩
    | some parts =>
      obtain ⟨address, port⟩ := parts
      obtain ⟨rfl, hcolon⟩ := cutLast_eq_some_iff.1 hcut
      refine ⟨address, some port, .nameWithPort (fun h => hopen ?_) hcolon⟩
      rw [List.head?_append, h, Option.some_or]

theorem splitHostAndPort_of_unclosed {inner : Text} (h : trim s = '[' :: inner)
    (hclose : ']' ∉ inner) : splitHostAndPort s = none := by
  simp only [splitHostAndPort, h, cut_eq_none_iff.2 hclose]
  rfl

theorem splitHostAndPort_of_bare (h : (trim s).head? ≠ some '[') :
    splitHostAndPort s =
      (cutLast ':' (trim s)).elim ((nonEmpty? (trim s)).map (·, none)) fun cut =>
        (nonEmpty? cut.1).map (·, readUInt16 cut.2) := by
  unfold splitHostAndPort
  split
  · next hopen => exact absurd (by rw [hopen]; rfl) h
  · cases cutLast ':' (trim s) <;> rfl

/-- What is read of a text is said by its parts. -/
theorem HostParts.splitHostAndPort_eq {port : Option Text} (h : HostParts (trim s) address port) :
    splitHostAndPort s = (nonEmpty? address).map (·, port.bind readUInt16) := by
  generalize hs : trim s = t at h
  cases h with
  | name hopen hcolon =>
    rw [splitHostAndPort_of_bare (by rwa [hs]), hs, cutLast_eq_none_iff.2 hcolon]
    rfl
  | nameWithPort hopen hcolon =>
    have hhead : (trim s).head? ≠ some '[' := by
      rw [hs]
      cases address with
      | nil => simp
      | cons c address => exact hopen
    rw [splitHostAndPort_of_bare hhead, hs, cutLast_append hcolon]
    rfl
  | @brackets address rest hclose hcolon =>
    rw [List.cons_append] at hs
    simp only [splitHostAndPort, hs, cut_append hclose, Option.bind_eq_bind, Option.bind_some]
    cases nonEmpty? address with
    | none => rfl
    | some address =>
      cases rest with
      | nil => rfl
      | cons c rest =>
        simp only [Option.bind_some]
        split
        · next hc => exact absurd (by rw [(List.cons.inj hc).1]; rfl) hcolon
        · rfl
  | bracketsWithPort hclose =>
    rw [List.cons_append] at hs
    simp only [splitHostAndPort, hs, cut_append hclose, Option.bind_eq_bind, Option.bind_some]
    cases nonEmpty? address <;> rfl

/-- **What is read of a host is its address**, which is not empty, and the port if its text is one. -/
theorem splitHostAndPort_eq_some_iff {port : Option UInt16} :
    splitHostAndPort s = some (address, port) ↔
      address ≠ [] ∧ ∃ text, HostParts (trim s) address text ∧ text.bind readUInt16 = port := by
  constructor
  · intro h
    rcases hostParts_or_unclosed (trim s) with ⟨a, text, hparts⟩ | ⟨inner, hs, hclose⟩
    · rw [hparts.splitHostAndPort_eq, Option.map_eq_some_iff] at h
      obtain ⟨_, hne, hpair⟩ := h
      obtain ⟨rfl, hne⟩ := nonEmpty?_eq_some_iff.1 hne
      obtain ⟨rfl, rfl⟩ := Prod.mk.inj hpair
      exact ⟨hne, text, hparts, rfl⟩
    · rw [splitHostAndPort_of_unclosed hs hclose] at h
      cases h
  · rintro ⟨hne, text, hparts, rfl⟩
    rw [hparts.splitHostAndPort_eq, nonEmpty?_eq_some_iff.2 ⟨rfl, hne⟩, Option.map_some]

/-! ## Hosts that are written -/

/-- The text of a host: a name or an address in brackets, with its port or without one. -/
inductive WritesHost : Text → Option UInt16 → Text → Prop
  | name {name : Text} (hne : name ≠ []) (colon : ':' ∉ name) (opening : name.head? ≠ some '[')
      (ends : BareEnds isBlank name) : WritesHost name none name
  | nameWithPort {name : Text} (hne : name ≠ []) (colon : ':' ∉ name)
      (opening : name.head? ≠ some '[') (ends : BareEnds isBlank name) (p : UInt16) :
    WritesHost name (some p) (name ++ ':' :: decimal p.toNat)
  | bracketed {address : Text} (hne : address ≠ []) (closing : ']' ∉ address) :
    WritesHost address none ('[' :: address ++ [']'])
  | bracketedWithPort {address : Text} (hne : address ≠ []) (closing : ']' ∉ address) (p : UInt16) :
    WritesHost address (some p) ('[' :: address ++ ']' :: ':' :: decimal p.toNat)

theorem bareEnds_decimal (n : Nat) : BareEnds isBlank (decimal n) :=
  bareEnds_of_forall fun c hc => isBlank_of_isDigit ((digits_decimal n).isDigit c hc)

theorem WritesHost.bareEnds {port : Option UInt16} (h : WritesHost address port text) :
    BareEnds isBlank text := by
  have hbracket : BareEnds isBlank ['['] := by decide
  cases h with
  | name _ _ _ hends => exact hends
  | nameWithPort hne _ _ hends p =>
    have hdigits : decimal p.toNat ≠ [] := (digits_decimal p.toNat).ne_nil
    have hbare := bareEnds_around hends (bareEnds_decimal p.toNat) hne hdigits [':']
    simpa using hbare
  | bracketed =>
    exact bareEnds_around hbracket (by decide) (by simp) (by simp) address
  | bracketedWithPort _ _ p =>
    have hdigits : decimal p.toNat ≠ [] := (digits_decimal p.toNat).ne_nil
    have hbare := bareEnds_around hbracket (bareEnds_decimal p.toNat) (by simp) hdigits
      (address ++ "]:".toList)
    simpa using hbare

theorem WritesHost.parts {port : Option UInt16} (h : WritesHost address port text) :
    address ≠ [] ∧ ∃ t, HostParts text address t ∧ t.bind readUInt16 = port := by
  cases h with
  | name hne hcolon hopen => exact ⟨hne, none, .name hopen hcolon, rfl⟩
  | nameWithPort hne hcolon hopen _ p =>
    exact ⟨hne, some _, .nameWithPort hopen (notMem_decimal p (by decide)), readUInt16_decimal p⟩
  | bracketed hne hclose => exact ⟨hne, none, .brackets hclose (by simp), rfl⟩
  | bracketedWithPort hne hclose p =>
    exact ⟨hne, some _, .bracketsWithPort hclose, readUInt16_decimal p⟩

/-- **Hosts are read back** with any blanks around them. What is read of any other text is an address
that is not empty, with a port only if the text is, between its blanks, the address, bare or in
brackets, a colon and a numeral for that port; with what is no numeral for a port behind the colon it
is the address alone. -/
theorem hosts_read :
    (∀ address port text s, WritesHost address port text → Padded text s →
      splitHostAndPort s = some (address, port)) ∧
    (∀ s address port, splitHostAndPort s = some (address, port) →
      address ≠ [] ∧ ∀ p, port = some p → ∃ number, Numeral number p.toNat ∧
        (trim s = address ++ ':' :: number ∨ trim s = '[' :: address ++ ']' :: ':' :: number)) ∧
    ∀ s address text, HostParts (trim s) address (some text) → address ≠ [] →
      (∀ n, Numeral text n → UInt16.size ≤ n) → splitHostAndPort s = some (address, none) := by
  refine ⟨fun address port text s htext hs => ?_, fun s address port h => ?_,
    fun s address text hparts hne hlarge => ?_⟩
  · have htrim : trim s = text := hs.trim_eq.trans (strip_eq_self_iff.2 htext.bareEnds)
    rw [splitHostAndPort_eq_some_iff, htrim]
    exact htext.parts
  · obtain ⟨hne, text, hparts, rfl⟩ := splitHostAndPort_eq_some_iff.1 h
    refine ⟨hne, fun p hp => ?_⟩
    obtain ⟨number, rfl, hnumber⟩ := Option.bind_eq_some_iff.1 hp
    refine ⟨number, readUInt16_eq_some_iff.1 hnumber, ?_⟩
    generalize trim s = t at hparts
    cases hparts with
    | nameWithPort => exact Or.inl rfl
    | bracketsWithPort => exact Or.inr rfl
  · exact splitHostAndPort_eq_some_iff.2 ⟨hne, some text, hparts, readUInt16_eq_none hlarge⟩

/-- An address in brackets with its port and a tab in front, several colons without brackets, a port
with a sign and a zero in front, and one that is too large. -/
theorem hosts_read_bracketed :
    splitHostAndPort "\t[::1]:8080 ".toList = some ("::1".toList, some 8080) ∧
      splitHostAndPort "a:b:+080".toList = some ("a:b".toList, some 80) ∧
      (∃ number, Numeral number 80 ∧
        (trim "a:b:+080".toList = "a:b".toList ++ ':' :: number ∨
          trim "a:b:+080".toList = '[' :: "a:b".toList ++ ']' :: ':' :: number)) ∧
      splitHostAndPort "[::1]:65536".toList = some ("::1".toList, none) := by
  obtain ⟨hwritten, hread, hlarge⟩ := hosts_read
  have hhost : WritesHost "::1".toList (some 8080) "[::1]:8080".toList :=
    .bracketedWithPort (by decide) (by decide) 8080
  have hcolons : splitHostAndPort "a:b:+080".toList = some ("a:b".toList, some 80) := by decide
  have hparts : HostParts "[::1]:65536".toList "::1".toList (some "65536".toList) :=
    @HostParts.bracketsWithPort "::1".toList "65536".toList (by decide)
  have hnumeral : Numeral "65536".toList 65536 := ⟨_, Or.inl rfl, by decide,
    List.all_eq_true.1 rfl, by decide⟩
  refine ⟨hwritten _ _ _ _ hhost ⟨['\t'], [' '], by decide, by decide, by decide⟩, hcolons,
    (hread _ _ _ hcolons).2 80 rfl, hlarge _ _ _ hparts (by decide) fun n hn => ?_⟩
  exact Nat.le_of_eq (hnumeral.inj hn)

end ServerTelemetry
