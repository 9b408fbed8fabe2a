import ServerTelemetry.Text.Blank

/-!
# Letter case

Header names, directive keys and truth values ignore the case of the ASCII letters and of no other
character: `É` and `é` stay different. Two texts agree in this sense exactly when their lower-case
forms are equal.
-/

namespace ServerTelemetry.Text

/-- The text with its ASCII capitals in lower case. -/
def lower (s : Text) : Text :=
  s.map Char.toLower

/-- Equality that ignores the case of ASCII letters. -/
def sameLetters (s t : Text) : Bool :=
  lower s == lower t

theorem sameLetters_iff {s t : Text} : sameLetters s t = true ↔ lower s = lower t := by
  simp [sameLetters]

@[simp] theorem lower_nil : lower [] = [] := rfl

@[simp] theorem lower_append (s t : Text) : lower (s ++ t) = lower s ++ lower t := by
  simp [lower]

theorem toLower_toLower (c : Char) : c.toLower.toLower = c.toLower := by
  by_cases h : 65 ≤ c.toNat ∧ c.toNat ≤ 90
  · have hcapitals : ∀ n, n < 26 →
        (Char.ofNat (65 + n)).toLower.toLower = (Char.ofNat (65 + n)).toLower := by decide
    have hc := hcapitals (c.toNat - 65) (by omega)
    rw [show 65 + (c.toNat - 65) = c.toNat by omega, Char.ofNat_toNat] at hc
    exact hc
  · have hc : c.toLower = c := by
      unfold Char.toLower
      split
      · next hcapital => exact absurd hcapital h
      · rfl
    rw [hc, hc]

@[simp] theorem lower_lower (s : Text) : lower (lower s) = lower s := by
  rw [lower, lower, List.map_map]
  exact List.map_congr_left fun c _ => toLower_toLower c

end ServerTelemetry.Text
