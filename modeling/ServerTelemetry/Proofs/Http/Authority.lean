import ServerTelemetry.Http.Uri
import ServerTelemetry.Proofs.Extractor.Host

/-!
# Host and port of an authority

The host and the port of a request target are found in its authority, those of a `Host` header in the
header's value. `Bare` are the authorities that may stand in either place: a host with or without a
port, but without user information. The scan lets few characters through and one pair of brackets
(`isChar_of_check`, `count_open_le`, `count_close_le`), so both ways of looking come to the same
address and port (`Bare.address_eq`, `Bare.port?_eq`, `Bare.splitHostAndPort_eq`).
-/

namespace ServerTelemetry.Http.Authority

open Text

/-! ## What a scan lets through -/

/-- The characters an authority may have. -/
def isChar (c : Char) : Bool :=
  isPlain c || ":[]@%".toList.contains c

theorem isAlphanum_toNat {c : Char} (h : c.isAlphanum = true) : 33 ≤ c.toNat ∧ c.toNat ≤ 126 := by
  have hrange : (decide (c.val ≥ 'A'.val ∧ c.val ≤ 'Z'.val) ||
      (decide (c.val ≥ 'a'.val) && decide (c.val ≤ 'z'.val)) ||
      (decide (c.val ≥ '0'.val) && decide (c.val ≤ '9'.val))) = true := h
  simp only [Bool.or_eq_true, Bool.and_eq_true, decide_eq_true_eq] at hrange
  have hnat : ((65 ≤ c.toNat ∧ c.toNat ≤ 90) ∨ (97 ≤ c.toNat ∧ c.toNat ≤ 122)) ∨
      (48 ≤ c.toNat ∧ c.toNat ≤ 57) := hrange
  omega

theorem isChar_toNat {c : Char} (h : isChar c = true) : 33 ≤ c.toNat ∧ c.toNat ≤ 126 := by
  have hmarks : ("!$&'()*+,-.;=_~".toList ++ ":[]@%".toList).all
      (fun c => 33 ≤ c.toNat && c.toNat ≤ 126) = true := by decide
  have hmark : c ∈ "!$&'()*+,-.;=_~".toList ++ ":[]@%".toList → 33 ≤ c.toNat ∧ c.toNat ≤ 126 := by
    intro hc
    simpa only [Bool.and_eq_true, decide_eq_true_eq] using List.all_eq_true.1 hmarks c hc
  simp only [isChar, isPlain, Bool.or_eq_true, List.contains_iff_mem] at h
  rcases h with (h | h) | h
  · exact isAlphanum_toNat h
  · exact hmark (List.mem_append_left _ h)
  · exact hmark (List.mem_append_right _ h)

theorem isEnd_of_isChar {c : Char} (h : isChar c = true) : isEnd c = false := by
  cases hend : isEnd c with
  | false => rfl
  | true =>
    simp only [isEnd, Bool.or_eq_true, beq_iff_eq] at hend
    rcases hend with (rfl | rfl) | rfl <;> exact absurd h (by decide)

/-- What is true of every step of a scan. -/
structure Scan.Stepped (s : Scan) (c : Char) (t : Scan) : Prop where
  isChar : isChar c = true
  opened : t.opened.toNat = s.opened.toNat + if c == '[' then 1 else 0
  closed : t.closed.toNat = s.closed.toNat + if c == ']' then 1 else 0

theorem Scan.step_other {s t : Scan} {c : Char} (hopen : c ≠ '[') (hclose : c ≠ ']')
    (h : s.step c = .ok t) : isChar c = true ∧ t.opened = s.opened ∧ t.closed = s.closed := by
  simp only [step, hopen, hclose, ↓reduceIte] at h
  split at h
  · next hc =>
    subst hc
    split at h
    · cases h
    · cases h
      exact ⟨by decide, rfl, rfl⟩
  · split at h
    · next hc =>
      cases h
      exact ⟨by rw [hc]; decide, rfl, rfl⟩
    · split at h
      · next hc =>
        cases h
        exact ⟨by rw [hc]; decide, rfl, rfl⟩
      · split at h
        · next hplain =>
          cases h
          exact ⟨by rw [isChar, hplain, Bool.true_or], rfl, rfl⟩
        · cases h

theorem Scan.stepped {s t : Scan} {c : Char} (h : s.step c = .ok t) : s.Stepped c t := by
  by_cases hopen : c = '['
  · subst hopen
    have hstep : s.step '[' = if s.percent || s.opened then .error .authority
        else .ok { s with opened := true, afterAt := false } := rfl
    rw [hstep] at h
    split at h
    · cases h
    · next hnot =>
      cases h
      have hfresh : s.opened = false := by simp_all
      exact ⟨by decide, by rw [hfresh]; rfl, rfl⟩
  · by_cases hclose : c = ']'
    · subst hclose
      have hstep : s.step ']' = if ! s.opened || s.closed then .error .authority
          else .ok { s with closed := true, colons := 0, percent := false, afterAt := false } := rfl
      rw [hstep] at h
      split at h
      · cases h
      · next hnot =>
        cases h
        have hfresh : s.closed = false := by simp_all
        exact ⟨by decide, rfl, by rw [hfresh]; rfl⟩
    · obtain ⟨hchar, hopened, hclosed⟩ := step_other hopen hclose h
      exact ⟨hchar, by simp [hopened, hopen], by simp [hclosed, hclose]⟩

/-- What is true of a whole scan: brackets are counted by what is known of them. -/
theorem Scan.run {authority : Text} {s t : Scan} (h : authority.foldlM step s = .ok t) :
    (∀ c ∈ authority, Authority.isChar c = true) ∧
      t.opened.toNat = s.opened.toNat + authority.count '[' ∧
      t.closed.toNat = s.closed.toNat + authority.count ']' := by
  induction authority generalizing s with
  | nil =>
    cases h
    exact ⟨fun c hc => absurd hc List.not_mem_nil, rfl, rfl⟩
  | cons c authority ih =>
    rw [List.foldlM_cons] at h
    cases hs : s.step c with
    | error e =>
      rw [hs] at h
      cases h
    | ok u =>
      rw [hs] at h
      obtain ⟨hchars, hopened, hclosed⟩ := ih h
      have hstep := stepped hs
      refine ⟨List.forall_mem_cons.2 ⟨hstep.isChar, hchars⟩, ?_, ?_⟩
      · rw [hopened, hstep.opened, List.count_cons]
        omega
      · rw [hclosed, hstep.closed, List.count_cons]
        omega

section Checked

variable {authority : Text}

theorem exists_scan (h : check authority = .ok ()) :
    ∃ t, authority.foldlM Scan.step {} = .ok t := by
  cases ht : authority.foldlM Scan.step {} with
  | error e =>
    rw [check, ht] at h
    cases h
  | ok t => exact ⟨t, rfl⟩

theorem isChar_of_check (h : check authority = .ok ()) : ∀ c ∈ authority, isChar c = true := by
  obtain ⟨t, ht⟩ := exists_scan h
  exact (Scan.run ht).1

theorem count_open_le (h : check authority = .ok ()) : authority.count '[' ≤ 1 := by
  obtain ⟨t, ht⟩ := exists_scan h
  have hopened := (Scan.run ht).2.1
  have hle := Bool.toNat_le t.opened
  simp at hopened
  omega

theorem count_close_le (h : check authority = .ok ()) : authority.count ']' ≤ 1 := by
  obtain ⟨t, ht⟩ := exists_scan h
  have hclosed := (Scan.run ht).2.2
  have hle := Bool.toNat_le t.closed
  simp at hclosed
  omega

end Checked

/-! ## Hosts with and without ports -/

/-- A host as an authority has it, with the address it stands for: a name, which has no bracket in
front or at its end, or an address in brackets. -/
inductive HostText : Text → Text → Prop
  | name {name : Text} (nonempty : name ≠ []) (colon : ':' ∉ name)
      (opening : name.head? ≠ some '[') (closing : name.getLast? ≠ some ']') : HostText name name
  | literal {address : Text} (nonempty : address ≠ []) :
      HostText ('[' :: (address ++ [']'])) address

/-- What may follow a host, and the port that is read from it. -/
inductive PortText : Text → Option UInt16 → Prop
  | none : PortText [] none
  | port {port : Text} (colon : ':' ∉ port) : PortText (':' :: port) (readUInt16 port)

/-- An authority without user information, with the address and the port in it. -/
structure Bare (authority address : Text) (port : Option UInt16) : Prop where
  accepted : check authority = .ok ()
  user : '@' ∉ authority
  parts : ∃ host rest, authority = host ++ rest ∧ HostText host address ∧ PortText rest port

section Brackets

variable {s : Text}

theorem dropWhile_open (h : s.head? ≠ some '[') : s.dropWhile (· == '[') = s := by
  cases s with
  | nil => rfl
  | cons c s =>
    have hc : ¬ (c == '[') = true := by simpa using h
    exact List.dropWhile_cons_of_neg hc

theorem dropWhileEnd_close (h : s.getLast? ≠ some ']') : dropWhileEnd (· == ']') s = s := by
  rcases List.eq_nil_or_concat s with rfl | ⟨s, c, rfl⟩
  · rfl
  · rw [List.concat_eq_append] at h ⊢
    have hc : ¬ (c == ']') = true := by simpa using h
    rw [dropWhileEnd_concat, if_neg hc]

/-- Brackets around a text without brackets are taken off. -/
theorem strip_brackets (hne : s ≠ []) (hopen : '[' ∉ s) (hclose : ']' ∉ s) :
    dropWhileEnd (· == ']') (('[' :: (s ++ [']'])).dropWhile (· == '[')) = s := by
  have hfirst : (s ++ [']']).head? ≠ some '[' := by
    rw [List.head?_append, List.head?_eq_some_head hne, Option.some_or]
    exact fun h => hopen (List.mem_of_head? ((List.head?_eq_some_head hne).trans h))
  have hlast : s.getLast? ≠ some ']' := fun h => hclose (List.mem_of_getLast? h)
  rw [List.dropWhile_cons_of_pos (by decide), dropWhile_open hfirst, dropWhileEnd_concat,
    if_pos (by decide), dropWhileEnd_close hlast]

end Brackets

theorem hostAndPort_of_notMem {authority : Text} (h : '@' ∉ authority) :
    hostAndPort authority = authority := by
  rw [hostAndPort, cutLast_eq_none_iff.2 h]

theorem readUInt16_of_mem {s : Text} {c : Char} (hc : c ∈ s) (hdigit : c.isDigit = false)
    (hplus : c ≠ '+') : readUInt16 s = none := by
  refine Option.eq_none_iff_forall_ne_some.2 fun p hp => ?_
  obtain ⟨digits, hs, hdigits⟩ := readUInt16_eq_some_iff.1 hp
  have hmem : c ∈ digits := by
    rcases hs with rfl | rfl
    · exact hc
    · exact (List.mem_cons.1 hc).resolve_left hplus
  rw [hdigits.isDigit c hmem] at hdigit
  cases hdigit

/-- What follows a colon in a host ends with the closing bracket. -/
theorem HostText.mem_after {host address before after : Text} (h : HostText host address)
    (hcut : host = before ++ ':' :: after) : ']' ∈ after := by
  cases h with
  | name _ hcolon _ _ =>
    rw [hcut] at hcolon
    exact absurd (List.mem_append_right _ List.mem_cons_self) hcolon
  | literal _ =>
    have hlast := congrArg List.getLast? hcut
    rw [← List.cons_append, List.getLast?_concat, List.getLast?_append, List.getLast?_cons,
      Option.some_or, Option.some.injEq] at hlast
    cases hafter : after.getLast? with
    | none => simp [hafter] at hlast
    | some c =>
      rw [hafter, Option.getD_some] at hlast
      exact hlast ▸ List.mem_of_getLast? hafter

theorem port?_append {host address rest : Text} {port : Option UInt16} (hhost : HostText host address)
    (hport : PortText rest port) : port? (host ++ rest) = port := by
  cases hport with
  | port hcolon => rw [port?, cutLast_append hcolon, Option.bind_some]
  | none =>
    rw [List.append_nil, port?]
    cases hcut : cutLast ':' host with
    | none => rfl
    | some p =>
      have hmem := hhost.mem_after (cutLast_eq_some_iff.1 hcut).1
      exact readUInt16_of_mem hmem (by decide) (by decide)

namespace Bare

variable {authority address : Text} {port : Option UInt16}

theorem isEmpty_eq (h : Bare authority address port) : authority.isEmpty = false := by
  obtain ⟨host, rest, rfl, hhost, -⟩ := h.parts
  cases hhost with
  | name hne _ _ _ => simp [hne]
  | literal _ => rfl

theorem trim_eq (h : Bare authority address port) : trim authority = authority := by
  refine trim_eq_self fun c hc => ?_
  have hrange := isChar_toNat (isChar_of_check h.accepted c hc)
  simp [isBlank]
  omega

theorem port?_eq (h : Bare authority address port) : port? authority = port := by
  obtain ⟨host, rest, rfl, hhost, hport⟩ := h.parts
  exact port?_append hhost hport

/-- Inside brackets there are none, as an authority has one pair at most. -/
theorem notMem_literal {inside rest : Text}
    (h : check ('[' :: (inside ++ [']']) ++ rest) = .ok ()) : '[' ∉ inside ∧ ']' ∉ inside := by
  have hopen := count_open_le h
  have hclose := count_close_le h
  simp [List.count_append] at hopen hclose
  exact ⟨List.count_eq_zero.1 (by omega), List.count_eq_zero.1 (by omega)⟩

theorem first_name {name rest : Text} (hcolon : ':' ∉ name) (hport : PortText rest port) :
    first ':' (name ++ rest) = name := by
  cases hport with
  | none => rw [List.append_nil, first_of_notMem hcolon]
  | port _ => exact first_append hcolon

/-- The host without its brackets is the address. -/
theorem address_eq (h : Bare authority address port) :
    dropWhileEnd (· == ']') ((host authority).dropWhile (· == '[')) = address := by
  obtain ⟨text, rest, rfl, htext, hport⟩ := h.parts
  rw [host, hostAndPort_of_notMem h.user]
  cases htext with
  | name hne hcolon hopen hclose =>
    obtain ⟨c, name, rfl⟩ := List.exists_cons_of_ne_nil hne
    split
    · next he => simp_all
    · rw [first_name hcolon hport, dropWhile_open hopen, dropWhileEnd_close hclose]
  | literal hne =>
    obtain ⟨hopen, hclose⟩ := notMem_literal h.accepted
    have hfirst : first ']' ((address ++ [']']) ++ rest) = address := by
      rw [List.append_assoc]
      exact first_append hclose
    rw [List.cons_append]
    simp only [hfirst]
    exact strip_brackets hne hopen hclose

theorem splitHostAndPort_eq (h : Bare authority address port) :
    splitHostAndPort authority = some (address, port) := by
  rw [splitHostAndPort_eq_some_iff, h.trim_eq]
  obtain ⟨text, rest, rfl, htext, hport⟩ := h.parts
  cases htext with
  | name hne hcolon hopen _ =>
    refine ⟨hne, ?_⟩
    cases hport with
    | none => exact ⟨none, by rw [List.append_nil]; exact .name hopen hcolon, rfl⟩
    | port hport => exact ⟨some _, .nameWithPort hopen hport, rfl⟩
  | literal hne =>
    obtain ⟨-, hclose⟩ := notMem_literal h.accepted
    refine ⟨hne, ?_⟩
    rw [List.cons_append, List.append_assoc]
    cases hport with
    | none => exact ⟨none, .brackets hclose (by simp), rfl⟩
    | port _ => exact ⟨some _, .bracketsWithPort hclose, rfl⟩

end Bare

end ServerTelemetry.Http.Authority
