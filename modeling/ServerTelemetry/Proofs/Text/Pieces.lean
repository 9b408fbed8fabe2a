import Mathlib.Data.List.TakeWhile
import ServerTelemetry.Text.Pieces

/-!
# What is left of a text that is cut

`cut` and `cutLast` find the one separator that has none before it, or none after it
(`cut_eq_some_iff`, `cutLast_eq_some_iff`), and `pieces` of two texts with a separator between them
are the pieces of both (`pieces_append`). Blanks at the ends of a text are lost on `strip` and `trim`,
so they make no difference to the entries of a comma list (`entries_append_blank`,
`entries_blank_append`): however its parts are joined, a list has the same entries (`entries_join`).
-/

namespace ServerTelemetry.Text

variable {sep : Char} {s t a b : Text}

/-! ## At one separator -/

theorem cut_eq_none_iff : cut sep s = none ↔ sep ∉ s := by
  induction s with
  | nil => simp [cut]
  | cons c s ih =>
    by_cases h : c = sep
    · simp [cut, h]
    · simp [cut, h, ih, Ne.symm h]

theorem cut_append (h : sep ∉ a) : cut sep (a ++ sep :: b) = some (a, b) := by
  induction a with
  | nil => simp [cut]
  | cons c a ih =>
    simp only [List.mem_cons, not_or] at h
    simp [cut, Ne.symm h.1, ih h.2]

theorem cut_eq_some_iff : cut sep s = some (a, b) ↔ s = a ++ sep :: b ∧ sep ∉ a := by
  constructor
  · intro h
    induction s generalizing a with
    | nil => cases h
    | cons c s ih =>
      by_cases hc : c = sep
      · simp only [cut, hc, ↓reduceIte, Option.some.injEq, Prod.mk.injEq] at h
        obtain ⟨rfl, rfl⟩ := h
        simp [hc]
      · simp only [cut, hc, ↓reduceIte, Option.map_eq_some_iff, Prod.mk.injEq] at h
        obtain ⟨⟨a', b'⟩, h', rfl, rfl⟩ := h
        obtain ⟨rfl, hnot⟩ := ih h'
        simp [hnot, Ne.symm hc]
  · rintro ⟨rfl, h⟩
    exact cut_append h

theorem cutLast_eq_none_iff : cutLast sep s = none ↔ sep ∉ s := by
  induction s with
  | nil => simp [cutLast]
  | cons c s ih =>
    cases hs : cutLast sep s with
    | some p =>
      have hmem : sep ∈ s := by simpa [hs] using ih
      simp [cutLast, hs, hmem]
    | none =>
      have hnot : sep ∉ s := ih.1 hs
      by_cases h : c = sep
      · simp [cutLast, hs, h]
      · simp [cutLast, hs, h, hnot, Ne.symm h]

theorem cutLast_append (h : sep ∉ b) : cutLast sep (a ++ sep :: b) = some (a, b) := by
  induction a with
  | nil => simp [cutLast, cutLast_eq_none_iff.2 h]
  | cons c a ih => simp [cutLast, ih]

theorem cutLast_eq_some_iff : cutLast sep s = some (a, b) ↔ s = a ++ sep :: b ∧ sep ∉ b := by
  constructor
  · intro h
    induction s generalizing a with
    | nil => cases h
    | cons c s ih =>
      cases hs : cutLast sep s with
      | some p =>
        simp only [cutLast, hs, Option.some.injEq, Prod.mk.injEq] at h
        obtain ⟨rfl, rfl⟩ := h
        obtain ⟨he, hnot⟩ := ih hs
        exact ⟨by rw [he, List.cons_append], hnot⟩
      | none =>
        by_cases hc : c = sep
        · simp only [cutLast, hs, hc, ↓reduceIte, Option.some.injEq, Prod.mk.injEq] at h
          obtain ⟨rfl, rfl⟩ := h
          exact ⟨by rw [hc, List.nil_append], cutLast_eq_none_iff.1 hs⟩
        · simp [cutLast, hs, hc] at h
  · rintro ⟨rfl, h⟩
    exact cutLast_append h

theorem first_of_notMem (h : sep ∉ s) : first sep s = s := by
  refine List.takeWhile_eq_self_iff.2 fun c hc => ?_
  rw [bne_iff_ne]
  rintro rfl
  exact h hc

theorem first_append (h : sep ∉ a) : first sep (a ++ sep :: b) = a := by
  have ha : ∀ c ∈ a, (c != sep) = true := by
    intro c hc
    rw [bne_iff_ne]
    rintro rfl
    exact h hc
  rw [first, List.takeWhile_append_of_pos ha]
  simp

/-! ## At all separators -/

theorem pieces_of_notMem (h : sep ∉ s) : pieces sep s = [s] := by
  induction s with
  | nil => rfl
  | cons c s ih =>
    simp only [List.mem_cons, not_or] at h
    simp [pieces, Ne.symm h.1, ih h.2]

/-- A separator between two texts is between their pieces. -/
theorem pieces_append (sep : Char) (a b : Text) :
    pieces sep (a ++ sep :: b) = pieces sep a ++ pieces sep b := by
  induction a with
  | nil => simp [pieces]
  | cons c a ih =>
    by_cases h : c = sep
    · simp [pieces, h, ih]
    · cases hp : pieces sep a with
      | nil => exact absurd hp (pieces_ne_nil sep a)
      | cons p ps => simp [pieces, h, ih, hp]

theorem notMem_of_mem_pieces (h : a ∈ pieces sep s) : sep ∉ a := by
  induction s generalizing a with
  | nil =>
    obtain rfl := List.mem_singleton.1 h
    exact List.not_mem_nil
  | cons c s ih =>
    rw [pieces] at h
    split at h
    · rcases List.mem_cons.1 h with rfl | h
      · exact List.not_mem_nil
      · exact ih h
    · next hc =>
      obtain ⟨first, rest, hpieces⟩ := List.exists_cons_of_ne_nil (pieces_ne_nil sep s)
      rw [hpieces] at h ih
      rcases List.mem_cons.1 h with rfl | h
      · rw [List.mem_cons, not_or]
        exact ⟨Ne.symm hc, ih List.mem_cons_self⟩
      · exact ih (List.mem_cons_of_mem first h)

theorem head?_pieces (sep : Char) (s : Text) : (pieces sep s).head? = some (first sep s) := by
  cases hc : cut sep s with
  | none =>
    have hnot := cut_eq_none_iff.1 hc
    rw [pieces_of_notMem hnot, first_of_notMem hnot, List.head?_cons]
  | some p =>
    obtain ⟨he, hnot⟩ := cut_eq_some_iff.1 hc
    rw [he, pieces_append, pieces_of_notMem hnot, first_append hnot]
    rfl

/-! ## What stripping leaves -/

section Strip

variable {p : Char → Bool}

theorem strip_append_left (h : ∀ c ∈ a, p c = true) : strip p (a ++ s) = strip p s := by
  rw [strip, List.dropWhile_append_of_pos h, strip]

theorem strip_append_right (h : ∀ c ∈ b, p c = true) : strip p (s ++ b) = strip p s := by
  have hdrop : b.dropWhile p = [] := List.dropWhile_eq_nil_iff.2 h
  have hend : ∀ x, dropWhileEnd p (x ++ b) = dropWhileEnd p x := by
    intro x
    rw [dropWhileEnd, List.reverse_append, List.dropWhile_append_of_pos (by simpa using h),
      dropWhileEnd]
  rw [strip, List.dropWhile_append, strip]
  split
  · next hempty => rw [hdrop, List.isEmpty_iff.1 hempty]
  · exact hend _

/-- A text is what stripping leaves of it, between characters that are stripped. -/
theorem exists_strip (p : Char → Bool) (s : Text) :
    ∃ a b, s = a ++ strip p s ++ b ∧ (∀ c ∈ a, p c = true) ∧ ∀ c ∈ b, p c = true := by
  refine ⟨s.takeWhile p, ((s.dropWhile p).reverse.takeWhile p).reverse, ?_, ?_, ?_⟩
  · have hrest : s.dropWhile p =
        strip p s ++ ((s.dropWhile p).reverse.takeWhile p).reverse := by
      rw [strip, dropWhileEnd, ← List.reverse_append, List.takeWhile_append_dropWhile,
        List.reverse_reverse]
    rw [List.append_assoc, ← hrest, List.takeWhile_append_dropWhile]
  · exact fun c hc => List.all_eq_true.1 List.all_takeWhile c hc
  · intro c hc
    exact List.all_eq_true.1 List.all_takeWhile c (List.mem_reverse.1 hc)

theorem strip_eq_self (h : ∀ c ∈ s, p c = false) : strip p s = s := by
  obtain ⟨a, b, hs, ha, hb⟩ := exists_strip p s
  have hnil : ∀ x : Text, (∀ c ∈ x, p c = true) → x ⊆ s → x = [] := by
    intro x hx hsub
    refine List.eq_nil_iff_forall_not_mem.2 fun c hc => ?_
    have := h c (hsub hc)
    rw [hx c hc] at this
    cases this
  rw [hnil a ha (by rw [hs]; simp), hnil b hb (by rw [hs]; simp)] at hs
  simpa using hs.symm

theorem strip_strip (p : Char → Bool) (s : Text) : strip p (strip p s) = strip p s := by
  obtain ⟨a, b, hs, ha, hb⟩ := exists_strip p s
  have hstrip := congrArg (strip p) hs
  rw [strip_append_right hb, strip_append_left ha] at hstrip
  exact hstrip.symm

end Strip

theorem blank_iff : blank s = true ↔ ∀ c ∈ s, isBlank c = true :=
  List.all_eq_true

theorem not_blank_iff : blank s = false ↔ ∃ c ∈ s, isBlank c = false :=
  List.all_eq_false.trans (by simp only [Bool.not_eq_true])

theorem notMem_of_blank (hs : blank s = true) (hsep : isBlank sep = false) : sep ∉ s := by
  intro h
  rw [blank_iff.1 hs sep h] at hsep
  cases hsep

theorem trim_blank_append (h : blank a = true) : trim (a ++ s) = trim s :=
  strip_append_left (blank_iff.1 h)

theorem trim_append_blank (h : blank b = true) : trim (s ++ b) = trim s :=
  strip_append_right (blank_iff.1 h)

@[simp] theorem trim_trim (s : Text) : trim (trim s) = trim s :=
  strip_strip isBlank s

theorem trim_eq_self (h : ∀ c ∈ s, isBlank c = false) : trim s = s :=
  strip_eq_self h

/-- A text is what trimming leaves of it, between blanks. -/
theorem exists_trim (s : Text) :
    ∃ a b, s = a ++ trim s ++ b ∧ blank a = true ∧ blank b = true := by
  obtain ⟨a, b, hs, ha, hb⟩ := exists_strip isBlank s
  exact ⟨a, b, hs, blank_iff.2 ha, blank_iff.2 hb⟩

/-! ## Trimmed pieces -/

theorem trim_pieces_blank_append (hsep : isBlank sep = false) (ha : blank a = true) :
    (pieces sep (a ++ s)).map trim = (pieces sep s).map trim := by
  have hnot := notMem_of_blank ha hsep
  cases hc : cut sep s with
  | none =>
    have hs := cut_eq_none_iff.1 hc
    rw [pieces_of_notMem hs, pieces_of_notMem (by simp [hnot, hs])]
    simp [trim_blank_append ha]
  | some p =>
    obtain ⟨hs, hp⟩ := cut_eq_some_iff.1 hc
    rw [hs, ← List.append_assoc, pieces_append, pieces_append, pieces_of_notMem hp,
      pieces_of_notMem (by simp [hnot, hp])]
    simp [trim_blank_append ha]

theorem trim_pieces_append_blank (hsep : isBlank sep = false) (hb : blank b = true) :
    (pieces sep (s ++ b)).map trim = (pieces sep s).map trim := by
  have hnot := notMem_of_blank hb hsep
  cases hc : cutLast sep s with
  | none =>
    have hs := cutLast_eq_none_iff.1 hc
    rw [pieces_of_notMem hs, pieces_of_notMem (by simp [hnot, hs])]
    simp [trim_append_blank hb]
  | some p =>
    obtain ⟨hs, hp⟩ := cutLast_eq_some_iff.1 hc
    have hpb : sep ∉ p.2 ++ b := by simp [hnot, hp]
    rw [hs, List.append_assoc, List.cons_append, pieces_append, pieces_append,
      pieces_of_notMem hp, pieces_of_notMem hpb]
    simp [trim_append_blank hb]

theorem trim_pieces_trim (hsep : isBlank sep = false) (s : Text) :
    (pieces sep (trim s)).map trim = (pieces sep s).map trim := by
  obtain ⟨a, b, hs, ha, hb⟩ := exists_trim s
  have hpieces := congrArg (fun x => (pieces sep x).map trim) hs
  simp only [trim_pieces_append_blank hsep hb, trim_pieces_blank_append hsep ha] at hpieces
  exact hpieces.symm

/-! ## Comma lists -/

/-- The entries of a comma list, trimmed; an entry may be empty. -/
def entries (s : Text) : List Text :=
  (pieces ',' s).map trim

theorem items_eq_filter (s : Text) : items s = (entries s).filter (! ·.isEmpty) := rfl

theorem entries_ne_nil (s : Text) : entries s ≠ [] := by
  simp [entries, pieces_ne_nil]

theorem head?_entries (s : Text) : (entries s).head? = some (trim (first ',' s)) := by
  rw [entries, List.head?_map, head?_pieces, Option.map_some]

theorem entries_append (a b : Text) : entries (a ++ ',' :: b) = entries a ++ entries b := by
  rw [entries, pieces_append, List.map_append, entries, entries]

theorem entries_blank_append (h : blank a = true) : entries (a ++ s) = entries s :=
  trim_pieces_blank_append (by decide) h

theorem entries_append_blank (h : blank b = true) : entries (s ++ b) = entries s :=
  trim_pieces_append_blank (by decide) h

/-- A list that is joined from parts has the entries of its parts. -/
theorem entries_join {parts : List Text} (h : parts ≠ []) :
    entries (join ", ".toList parts) = parts.flatMap entries := by
  induction parts with
  | nil => exact absurd rfl h
  | cons part parts ih =>
    cases parts with
    | nil => simp [join]
    | cons next parts =>
      have hsep : join ", ".toList (part :: next :: parts) =
          part ++ ',' :: ([' '] ++ join ", ".toList (next :: parts)) := by
        simp [join]
      rw [hsep, entries_append, entries_blank_append (by decide), ih (by simp)]
      rfl

end ServerTelemetry.Text
