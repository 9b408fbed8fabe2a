import ServerTelemetry.Duration.Read
import ServerTelemetry.Proofs.Text.Number

/-!
# Written durations read back

The reader takes the digits of a count and the letters of its unit one by one (`foldlM_part`), and
adds the amount as soon as the unit is complete (`closeUnit?_written`). So it adds up the parts that
a duration is written as, and these make up the duration (`read_write`).
-/

namespace ServerTelemetry.Duration

open Text

/-! ## Counts -/

theorem le_ofDigitChars (digits : Text) (n : Nat) : n ≤ Nat.ofDigitChars 10 digits n := by
  induction digits generalizing n with
  | nil => exact Nat.le_refl n
  | cons c digits ih =>
    have hrest := ih (10 * n + (c.toNat - '0'.toNat))
    rw [Nat.ofDigitChars_cons]
    omega

theorem bounded?_of_lt {n : Nat} (h : n < UInt64.size) : bounded? n = some n :=
  if_pos h

/-- More digits of a count. No count on the way is greater than the last one. -/
theorem foldlM_digits {digits : Text} (hdigits : ∀ c ∈ digits, c.isDigit = true) {n : Nat}
    (hlt : Nat.ofDigitChars 10 digits n < UInt64.size) (total : Duration) :
    digits.foldlM Stage.step (.whole total n)
      = some (.whole total (Nat.ofDigitChars 10 digits n)) := by
  induction digits generalizing n with
  | nil => rfl
  | cons c digits ih =>
    obtain ⟨hc, hdigits⟩ := List.forall_mem_cons.1 hdigits
    rw [Nat.ofDigitChars_cons] at hlt ⊢
    have hn : n * 10 + (c.toNat - '0'.toNat) < UInt64.size := by
      have hle := le_ofDigitChars digits (10 * n + (c.toNat - '0'.toNat))
      omega
    have hstep : Stage.step (.whole total n) c
        = some (.whole total (10 * n + (c.toNat - '0'.toNat))) := by
      simp only [Stage.step, digit?, hc, ↓reduceIte]
      rw [bounded?_of_lt hn, Option.map_some, Nat.mul_comm n 10]
    rw [List.foldlM_cons, hstep]
    exact ih hdigits hlt

theorem foldlM_decimal {n : Nat} (hn : n < UInt64.size) (before : Option Duration) :
    (decimal n).foldlM Stage.step (.lead before) = some (.whole (before.getD zero) n) := by
  obtain ⟨hne, hdigits, hvalue⟩ := digits_decimal n
  cases hs : decimal n with
  | nil => exact absurd hs hne
  | cons c digits =>
    rw [hs] at hdigits hvalue
    obtain ⟨hc, hdigits⟩ := List.forall_mem_cons.1 hdigits
    rw [Nat.ofDigitChars_cons, Nat.mul_zero, Nat.zero_add] at hvalue
    have hstep : Stage.step (.lead before) c
        = some (.whole (before.getD zero) (c.toNat - '0'.toNat)) := by
      simp only [Stage.step, digit?, hc, ↓reduceIte]
    rw [List.foldlM_cons, hstep]
    have hrest := foldlM_digits (n := c.toNat - '0'.toNat) hdigits (by omega) (before.getD zero)
    rw [hvalue] at hrest
    exact hrest

/-! ## Units -/

/-- A letter of a unit ends no count and no unit. -/
theorem not_digit_of_isUnitChar {c : Char} (h : isUnitChar c = true) :
    digit? c = none ∧ isBlank c = false := by
  have hrange : (97 ≤ c.toNat ∧ c.toNat ≤ 122) ∨ (65 ≤ c.toNat ∧ c.toNat ≤ 90) ∨ c.toNat = 181 := by
    delta isUnitChar Char.isAlpha Char.isUpper Char.isLower at h
    simp only [Bool.or_eq_true, Bool.and_eq_true, decide_eq_true_eq, beq_iff_eq] at h
    rcases h with (⟨hlow, hhigh⟩ | ⟨hlow, hhigh⟩) | rfl
    · exact Or.inr (Or.inl ⟨hlow, hhigh⟩)
    · exact Or.inl ⟨hlow, hhigh⟩
    · exact Or.inr (Or.inr rfl)
  constructor
  · have hdigit : ¬ c.isDigit = true := by
      simp only [Char.isDigit, Bool.and_eq_true, decide_eq_true_eq, not_and]
      intro _ hhigh
      have hle : c.toNat ≤ 57 := hhigh
      omega
    rw [digit?, if_neg hdigit]
  · simp only [isBlank, Bool.or_eq_false_iff, Bool.and_eq_false_iff, decide_eq_false_iff_not,
      beq_eq_false_iff_ne]
    omega

theorem foldlM_letters {letters : Text} (hletters : ∀ c ∈ letters, isUnitChar c = true)
    (hne : letters ≠ []) (total : Duration) (n : Nat) :
    letters.foldlM Stage.step (.whole total n) = some (.unit total ⟨n, none⟩ letters.reverse) := by
  -- The first letter ends the count, the others add to the unit.
  have hmore : ∀ (letters before : Text), (∀ c ∈ letters, isUnitChar c = true) →
      letters.foldlM Stage.step (.unit total ⟨n, none⟩ before)
        = some (.unit total ⟨n, none⟩ (letters.reverse ++ before)) := by
    intro letters
    induction letters with
    | nil => intro before _; rfl
    | cons c letters ih =>
      intro before h
      obtain ⟨hc, h⟩ := List.forall_mem_cons.1 h
      obtain ⟨hdigit, hblank⟩ := not_digit_of_isUnitChar hc
      have hstep : Stage.step (.unit total ⟨n, none⟩ before) c
          = some (.unit total ⟨n, none⟩ (c :: before)) := by
        simp only [Stage.step, hdigit, hblank, hc, Bool.false_eq_true, ↓reduceIte]
      rw [List.foldlM_cons, hstep, List.reverse_cons, List.append_assoc]
      exact ih (c :: before) h
  cases letters with
  | nil => exact absurd rfl hne
  | cons c letters =>
    obtain ⟨hc, hletters⟩ := List.forall_mem_cons.1 hletters
    obtain ⟨hdigit, hblank⟩ := not_digit_of_isUnitChar hc
    have hstep : Stage.step (.whole total n) c = some (.unit total ⟨n, none⟩ [c]) := by
      simp only [Stage.step, hdigit, hblank, hc, Bool.false_eq_true, ↓reduceIte]
    rw [List.foldlM_cons, hstep, List.reverse_cons]
    exact hmore letters [c] hletters

theorem written_letters (unit : DurationUnit) (count : Nat) :
    unit.written count ≠ [] ∧ ∀ c ∈ unit.written count, isUnitChar c = true := by
  rw [← List.all_eq_true]
  unfold DurationUnit.written
  by_cases h : 1 < count <;> cases unit <;> simp only [h, ↓reduceIte] <;> decide

theorem ofName?_written (unit : DurationUnit) (count : Nat) :
    DurationUnit.ofName? (unit.written count) = some unit := by
  unfold DurationUnit.written
  by_cases h : 1 < count <;> cases unit <;> simp only [h, ↓reduceIte] <;> decide

/-! ## Parts -/

theorem ofNanos?_nanos (d : Duration) : ofNanos? d.nanos = some d :=
  dif_pos d.nanos_lt

/-- The units of a second or more are whole seconds. -/
theorem nanos_eq_seconds {unit : DurationUnit}
    (h : ¬ unit.nanos < DurationUnit.second.nanos) :
    unit.nanos = unit.nanos / DurationUnit.second.nanos * DurationUnit.second.nanos := by
  cases unit <;> first | rfl | exact absurd (by decide) h

/-- Counts that are read back: those of a unit below a second are less than a second together. -/
def Fits (p : Nat × DurationUnit) : Prop :=
  p.2.nanos < DurationUnit.second.nanos → p.1 * p.2.nanos < DurationUnit.second.nanos

theorem count_lt {d : Duration} {n : Nat} {unit : DurationUnit} (hfits : Fits (n, unit))
    (hle : n * unit.nanos ≤ d.nanos) : n < UInt64.size := by
  have hsecond : DurationUnit.second.nanos = 1000000000 := rfl
  have hsize : UInt64.size = 18446744073709551616 := rfl
  have hlt := d.nanos_lt
  by_cases h : unit.nanos < DurationUnit.second.nanos
  · have hamount : n * unit.nanos < DurationUnit.second.nanos := hfits h
    have hpos : 0 < unit.nanos := by cases unit <;> decide
    have hn : n ≤ n * unit.nanos := Nat.le_mul_of_pos_right n hpos
    omega
  · have hn := Nat.mul_le_mul_left n (Nat.le_of_not_lt h)
    rw [hsecond] at hn
    omega

/-- A complete unit adds its amount. -/
theorem closeUnit?_written {total d : Duration} {n : Nat} {unit : DurationUnit}
    (hfits : Fits (n, unit)) (hd : d.nanos = total.nanos + n * unit.nanos) :
    closeUnit? total ⟨n, none⟩ (unit.written n).reverse = some d := by
  have hsecond : DurationUnit.second.nanos = 1000000000 := rfl
  have hsize : UInt64.size = 18446744073709551616 := rfl
  have hwhole : addWhole? total n unit = some d := by
    have hlt := d.nanos_lt
    by_cases h : unit.nanos < DurationUnit.second.nanos
    · have hamount : n * unit.nanos < DurationUnit.second.nanos := hfits h
      have hrest : total.nanos % DurationUnit.second.nanos < DurationUnit.second.nanos :=
        Nat.mod_lt _ (by decide)
      rw [addWhole?, if_pos h, bounded?_of_lt (by omega), Option.bind_some, addNanos?,
        bounded?_of_lt (by omega), ← hd, ofNanos?_nanos]
      rfl
    · have hunit := nanos_eq_seconds h
      rw [addWhole?, if_neg h]
      generalize unit.nanos / DurationUnit.second.nanos = seconds at hunit ⊢
      have hamount : n * unit.nanos = n * seconds * 1000000000 := by
        rw [hunit, hsecond, Nat.mul_assoc]
      rw [bounded?_of_lt (by omega), Option.bind_some, addSeconds?, hsecond, ← hamount, ← hd,
        ofNanos?_nanos]
  rw [closeUnit?, List.reverse_reverse, ofName?_written]
  simp only [Option.bind_eq_bind, Option.bind_some, addCount?, hwhole]
  rfl

/-- The reader takes a part, up to adding it. -/
theorem foldlM_part {n : Nat} (hn : n < UInt64.size) (unit : DurationUnit)
    (before : Option Duration) :
    (writePart n unit).foldlM Stage.step (.lead before)
      = some (.unit (before.getD zero) ⟨n, none⟩ (unit.written n).reverse) := by
  obtain ⟨hne, hletters⟩ := written_letters unit n
  rw [writePart, List.foldlM_append, foldlM_decimal hn before]
  exact foldlM_letters hletters hne (before.getD zero) n

/-- The reader adds up parts. -/
theorem foldlM_parts {parts : List (Nat × DurationUnit)} (hfits : ∀ p ∈ parts, Fits p)
    {sum d : Duration} (hd : d.nanos = sum.nanos + total parts)
    {before : Duration} {count : Count} {letters : Text}
    (hclose : closeUnit? before count letters = some sum) :
    ((parts.flatMap fun (n, unit) => ' ' :: writePart n unit).foldlM Stage.step
      (.unit before count letters)).bind Stage.finish = some d := by
  -- A part is added at the blank that follows it, so the induction goes from unit to unit.
  induction parts generalizing sum before count letters with
  | nil =>
    obtain rfl : d = sum := nanos_injective (by rw [hd, total, Nat.add_zero])
    exact hclose
  | cons p parts ih =>
    obtain ⟨n, unit⟩ := p
    obtain ⟨hp, hparts⟩ := List.forall_mem_cons.1 hfits
    rw [total] at hd
    -- The sum with this part is a duration, as it is no more than all parts together.
    have hlt := d.nanos_lt
    obtain ⟨next, hnext⟩ : ∃ next : Duration, next.nanos = sum.nanos + n * unit.nanos :=
      ⟨⟨sum.nanos + n * unit.nanos, by omega⟩, rfl⟩
    have hblank : Stage.step (.unit before count letters) ' ' = some (.lead (some sum)) := by
      have hdigit : digit? ' ' = none := by decide
      have hblank : isBlank ' ' = true := by decide
      simp only [Stage.step, hdigit, hblank, ↓reduceIte, hclose, Option.map_some]
    have hn : n < UInt64.size := count_lt hp (d := d) (by omega)
    rw [List.flatMap_cons, List.cons_append, List.foldlM_cons, hblank]
    change ((writePart n unit ++ _).foldlM Stage.step (.lead (some sum))).bind _ = _
    rw [List.foldlM_append, foldlM_part hn unit (some sum)]
    exact ih hparts (by omega) (closeUnit?_written hp hnext)

theorem total_filter (parts : List (Nat × DurationUnit)) :
    total (parts.filter (·.1 != 0)) = total parts := by
  induction parts with
  | nil => rfl
  | cons p parts ih =>
    obtain ⟨n, unit⟩ := p
    by_cases hn : n = 0
    · simp [hn, total, ih]
    · simp [hn, total, ih]

theorem total_parts (d : Duration) : total d.parts = d.nanos := by
  rw [parts, total_filter]
  exact total_split
    [.year, .month, .day, .hour, .minute, .second, .millisecond, .microsecond] d.nanos

/-- No amount is greater than what is taken apart. -/
theorem le_of_mem_split {units : List DurationUnit} {n : Nat} {p : Nat × DurationUnit}
    (hp : p ∈ split units n) : p.1 * p.2.nanos ≤ n := by
  induction units generalizing n with
  | nil => exact absurd hp List.not_mem_nil
  | cons unit units ih =>
    rw [split] at hp
    rcases List.mem_cons.1 hp with rfl | hp
    · exact Nat.div_mul_le_self n unit.nanos
    · exact Nat.le_trans (ih hp) (Nat.mod_le n unit.nanos)

/-- Below the second no more than the rest of a second is left. -/
theorem fits_split (large small : List DurationUnit)
    (hlarge : ∀ unit ∈ large, ¬ unit.nanos < DurationUnit.second.nanos) (n : Nat) :
    ∀ p ∈ split (large ++ .second :: small) n, Fits p := by
  induction large generalizing n with
  | nil =>
    intro p hp hsmall
    rcases List.mem_cons.1 hp with rfl | hp
    · exact absurd hsmall (Nat.lt_irrefl _)
    · exact Nat.lt_of_le_of_lt (le_of_mem_split hp) (Nat.mod_lt n (by decide))
  | cons unit large ih =>
    obtain ⟨hunit, hlarge⟩ := List.forall_mem_cons.1 hlarge
    intro p hp
    rcases List.mem_cons.1 hp with rfl | hp
    · exact fun hsmall => absurd hsmall hunit
    · exact ih hlarge (n % unit.nanos) p hp

theorem fits_parts (d : Duration) : ∀ p ∈ d.parts, Fits p := by
  intro p hp
  have hsplit : p ∈ split writtenUnits d.nanos := (List.mem_filter.1 hp).1
  exact fits_split [.year, .month, .day, .hour, .minute] [.millisecond, .microsecond, .nanosecond]
    (by decide) d.nanos p hsplit

theorem writePart_append_ne (n : Nat) (unit : DurationUnit) (rest : Text) :
    writePart n unit ++ rest ≠ ['0'] := by
  have hdigits := List.length_pos_iff.2 (digits_decimal n).ne_nil
  have hletters := List.length_pos_iff.2 (written_letters unit n).1
  intro h
  have hlength := congrArg List.length h
  simp only [writePart, List.length_append, List.length_singleton] at hlength
  omega

/-- **Every duration is read back** from what it is written as. -/
theorem read_write (d : Duration) : read d.write = some d := by
  have htotal := total_parts d
  have hfits := fits_parts d
  rw [write]
  cases hparts : d.parts with
  | nil =>
    rw [hparts] at htotal
    obtain rfl : d = zero := nanos_injective htotal.symm
    decide
  | cons p parts =>
    obtain ⟨n, unit⟩ := p
    rw [hparts] at htotal hfits
    obtain ⟨hp, hfits⟩ := List.forall_mem_cons.1 hfits
    rw [total] at htotal
    have hlt := d.nanos_lt
    obtain ⟨first, hfirst⟩ : ∃ first : Duration, first.nanos = n * unit.nanos :=
      ⟨⟨n * unit.nanos, by omega⟩, rfl⟩
    have hn : n < UInt64.size := count_lt hp (d := d) (by omega)
    have hclose : closeUnit? zero ⟨n, none⟩ (unit.written n).reverse = some first :=
      closeUnit?_written hp (by rw [hfirst, zero, Nat.zero_add])
    simp only [read, if_neg (writePart_append_ne n unit _)]
    rw [List.foldlM_append, foldlM_part hn unit none]
    exact foldlM_parts hfits (by omega) hclose

example : (ofMillis 5430123).write = "1h 30m 30s 123ms".toList := by decide

end ServerTelemetry.Duration
