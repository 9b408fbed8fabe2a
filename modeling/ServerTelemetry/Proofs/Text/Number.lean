import ServerTelemetry.Text.Number

/-!
# What numbers are written as

A number in base ten is read from digits alone, after at most one plus sign, and is the value of the
digits (`readNat_ten_eq_some_iff`).
-/

namespace ServerTelemetry.Text

/-- The text is digits, at least one, of a number in base ten. -/
structure Digits (s : Text) (n : Nat) : Prop where
  ne_nil : s ≠ []
  isDigit : ∀ c ∈ s, c.isDigit = true
  value : Nat.ofDigitChars 10 s 0 = n

/-- The digits of a number, after at most one plus sign. -/
def Numeral (s : Text) (n : Nat) : Prop :=
  ∃ digits, (s = digits ∨ s = '+' :: digits) ∧ Digits digits n

theorem digits_decimal (n : Nat) : Digits (decimal n) n :=
  ⟨Nat.toDigits_ne_nil, fun _ => Nat.isDigit_of_mem_toDigits (by decide) (by decide),
    Nat.ofDigitChars_toDigits (by decide) (by decide)⟩

/-- The digits below ten are those of base ten. -/
theorem digitValue?_lt_ten_iff {c : Char} {d : Nat} :
    digitValue? c = some d ∧ d < 10 ↔ c.isDigit = true ∧ d = c.toNat - '0'.toNat := by
  have hle : ∀ a b : Char, a ≤ b ↔ a.toNat ≤ b.toNat := fun a b => Iff.rfl
  have h0 : '0'.toNat = 48 := rfl
  have h9 : '9'.toNat = 57 := rfl
  have hdigit : c.isDigit = true ↔ '0' ≤ c ∧ c ≤ '9' := by
    simp only [Char.isDigit, ge_iff_le, Bool.and_eq_true, decide_eq_true_eq]
    rfl
  rw [hdigit, digitValue?]
  split
  · next h =>
    have hrange := h
    rw [hle, hle, h0, h9] at hrange
    rw [Option.some.injEq, and_iff_right h, h0]
    omega
  · next h =>
    constructor
    · rintro ⟨hd, hlt⟩
      split at hd
      · obtain rfl := Option.some.inj hd
        omega
      · split at hd
        · obtain rfl := Option.some.inj hd
          omega
        · cases hd
    · rintro ⟨hc, -⟩
      exact absurd hc h

theorem readDigits_ten_eq_some_iff {s : Text} {value n : Nat} :
    readDigits 10 value s = some n ↔
      (∀ c ∈ s, c.isDigit = true) ∧ Nat.ofDigitChars 10 s value = n := by
  induction s generalizing value with
  | nil => simp [readDigits]
  | cons c s ih =>
    rw [List.forall_mem_cons, Nat.ofDigitChars_cons, readDigits]
    by_cases hc : c.isDigit = true
    · obtain ⟨hd, hlt⟩ := digitValue?_lt_ten_iff.2 ⟨hc, rfl⟩
      rw [hd]
      simp only [hlt, ↓reduceIte, ih, hc, true_and, Nat.mul_comm value 10]
    · have hnone : ∀ d, digitValue? c = some d → ¬ d < 10 :=
        fun d hd hlt => hc (digitValue?_lt_ten_iff.1 ⟨hd, hlt⟩).1
      simp only [hc, Bool.false_eq_true, false_and, iff_false]
      cases hd : digitValue? c with
      | none => simp
      | some d => simp [hnone d hd]

/-- **A number in base ten is read from its digits**, after at most one plus sign. -/
theorem readNat_ten_eq_some_iff {bound n : Nat} {s : Text} :
    readNat 10 bound s = some n ↔ Numeral s n ∧ n < bound := by
  have hread : ∀ digits : Text, (if digits.isEmpty then none
      else (readDigits 10 0 digits).filter (· < bound)) = some n ↔ Digits digits n ∧ n < bound := by
    intro digits
    by_cases hne : digits = []
    · subst hne
      simp only [List.isEmpty_nil, ↓reduceIte, reduceCtorEq, false_iff, not_and]
      exact fun h => absurd rfl h.ne_nil
    · rw [if_neg (by simpa using hne), Option.filter_eq_some_iff, readDigits_ten_eq_some_iff,
        decide_eq_true_eq]
      exact ⟨fun ⟨⟨hd, hv⟩, hlt⟩ => ⟨⟨hne, hd, hv⟩, hlt⟩,
        fun ⟨h, hlt⟩ => ⟨⟨h.isDigit, h.value⟩, hlt⟩⟩
  -- A plus sign in front is no digit, so it is the one that is taken off.
  have hplus : ∀ {digits : Text}, ¬ Digits ('+' :: digits) n :=
    fun h => absurd (h.isDigit '+' List.mem_cons_self) (by decide)
  by_cases hs : ∃ rest, s = '+' :: rest
  · obtain ⟨rest, rfl⟩ := hs
    refine (hread rest).trans (and_congr_left fun _ => ⟨fun h => ⟨rest, Or.inr rfl, h⟩, ?_⟩)
    rintro ⟨digits, rfl | he, h⟩
    · exact absurd h hplus
    · rwa [(List.cons.inj he).2]
  · have hsame : readNat 10 bound s = if s.isEmpty then none
        else (readDigits 10 0 s).filter (· < bound) := by
      rw [readNat]
      exact fun rest he => hs ⟨rest, he⟩
    rw [hsame]
    refine (hread s).trans (and_congr_left fun _ => ⟨fun h => ⟨s, Or.inl rfl, h⟩, ?_⟩)
    rintro ⟨digits, rfl | rfl, h⟩
    · exact h
    · exact absurd ⟨digits, rfl⟩ hs

theorem Numeral.inj {s : Text} {m n : Nat} (hm : Numeral s m) (hn : Numeral s n) : m = n := by
  have hm := readNat_ten_eq_some_iff.2 ⟨hm, Nat.lt_succ_of_le (Nat.le_max_left m n)⟩
  have hn := readNat_ten_eq_some_iff.2 ⟨hn, Nat.lt_succ_of_le (Nat.le_max_right m n)⟩
  exact Option.some.inj (hm.symm.trans hn)

end ServerTelemetry.Text
