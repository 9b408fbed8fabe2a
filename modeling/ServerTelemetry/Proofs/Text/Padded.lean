import Mathlib.Data.List.Forall2
import ServerTelemetry.Proofs.Text.Pieces

/-!
# What may stand around a text

Stripping leaves a text with bare ends, and takes nothing off a text that has them
(`strip_eq_self_iff`). So `trim` finds a text without blanks at its ends again if it is `Padded` with
any blanks (`padded_iff`). A comma list is a text of entries with commas between them, in which each
entry may be padded and blank parts may stand anywhere. `items` finds the entries again, and every
text is a list of exactly one sequence of entries (`lists_iff`).
-/

namespace ServerTelemetry.Text

variable {sep : Char} {p : Char → Bool} {s t rest a b : Text}

/-! ## Ends -/

/-- Neither the first nor the last character satisfies `p`. -/
structure BareEnds (p : Char → Bool) (s : Text) : Prop where
  head : ∀ c ∈ s.head?, p c = false
  last : ∀ c ∈ s.getLast?, p c = false

instance : Decidable (BareEnds p s) :=
  decidable_of_iff (s.head?.all (! p ·) = true ∧ s.getLast?.all (! p ·) = true) <| by
    constructor
    · rintro ⟨hhead, hlast⟩
      exact ⟨by simpa [Option.all_eq_true] using hhead, by simpa [Option.all_eq_true] using hlast⟩
    · rintro ⟨hhead, hlast⟩
      exact ⟨by simpa [Option.all_eq_true] using hhead, by simpa [Option.all_eq_true] using hlast⟩

theorem head?_dropWhile (p : Char → Bool) (s : Text) : ∀ c ∈ (s.dropWhile p).head?, p c = false := by
  intro c hc
  have hhead := List.head?_dropWhile_not p s
  rw [Option.mem_def.1 hc] at hhead
  exact hhead

theorem dropWhileEnd_isPrefix (p : Char → Bool) (s : Text) : dropWhileEnd p s <+: s := by
  have hsuffix := List.reverse_prefix.2 (List.dropWhile_suffix p (l := s.reverse))
  rwa [List.reverse_reverse] at hsuffix

theorem bareEnds_strip (p : Char → Bool) (s : Text) : BareEnds p (strip p s) := by
  constructor
  · intro c hc
    obtain ⟨rest, hrest⟩ := dropWhileEnd_isPrefix p (s.dropWhile p)
    refine head?_dropWhile p s c ?_
    rw [← hrest, List.head?_append, show (dropWhileEnd p (s.dropWhile p)).head? = some c from hc]
    rfl
  · intro c hc
    rw [strip, dropWhileEnd, List.getLast?_reverse] at hc
    exact head?_dropWhile p _ c hc

theorem strip_eq_self_iff : strip p s = s ↔ BareEnds p s := by
  refine ⟨fun h => h ▸ bareEnds_strip p s, fun h => ?_⟩
  have hhead : s.dropWhile p = s := by
    cases s with
    | nil => rfl
    | cons c s => exact List.dropWhile_cons_of_neg (by simp [h.head c rfl])
  rw [strip, hhead]
  rcases List.eq_nil_or_concat s with rfl | ⟨init, c, rfl⟩
  · rfl
  · have hc : p c = false := h.last c (by simp)
    rw [List.concat_eq_append, dropWhileEnd_concat, hc]
    rfl

theorem bareEnds_of_forall (h : ∀ c ∈ s, p c = false) : BareEnds p s :=
  ⟨fun c hc => h c (List.mem_of_head? hc), fun c hc => h c (List.mem_of_getLast? hc)⟩

theorem BareEnds.append (hs : BareEnds p s) (ht : BareEnds p t) : BareEnds p (s ++ t) := by
  constructor
  · intro c hc
    rw [List.head?_append, Option.mem_def, Option.or_eq_some_iff] at hc
    exact hc.elim (hs.head c) fun hc => ht.head c hc.2
  · intro c hc
    rw [List.getLast?_append, Option.mem_def, Option.or_eq_some_iff] at hc
    exact hc.elim (ht.last c) fun hc => hs.last c hc.2

/-- Between two texts with bare ends anything may stand. -/
theorem bareEnds_around (ha : BareEnds p a) (hb : BareEnds p b) (hane : a ≠ []) (hbne : b ≠ [])
    (s : Text) : BareEnds p (a ++ s ++ b) := by
  constructor
  · rw [List.append_assoc, List.head?_append, Option.or_of_isSome (List.isSome_head?.2 hane)]
    exact ha.head
  · rw [List.getLast?_append, Option.or_of_isSome (List.getLast?_isSome.2 hbne)]
    exact hb.last

theorem dropWhile_append_bare (ha : a ≠ []) (hhead : ∀ c ∈ a.head?, p c = false) (s : Text) :
    (s ++ a).dropWhile p = s.dropWhile p ++ a := by
  obtain ⟨c, a, rfl⟩ := List.exists_cons_of_ne_nil ha
  have hc : p c = false := hhead c rfl
  rw [List.dropWhile_append, List.dropWhile_cons_of_neg (by simp [hc])]
  split
  · next h => rw [List.isEmpty_iff.1 h, List.nil_append]
  · rfl

theorem dropWhileEnd_bare_append (ha : a ≠ []) (hlast : ∀ c ∈ a.getLast?, p c = false) (s : Text) :
    dropWhileEnd p (a ++ s) = a ++ dropWhileEnd p s := by
  rw [dropWhileEnd, List.reverse_append, dropWhile_append_bare (by simpa using ha)
    (by simpa using hlast), List.reverse_append, List.reverse_reverse, dropWhileEnd]

/-- Stripping reaches no further than to a text with bare ends. -/
theorem strip_around (hs : s ≠ []) (h : BareEnds p s) (a b : Text) :
    strip p (a ++ s ++ b) = a.dropWhile p ++ s ++ dropWhileEnd p b := by
  have hhead : ∀ c ∈ (s ++ b).head?, p c = false := by
    obtain ⟨c, s, rfl⟩ := List.exists_cons_of_ne_nil hs
    exact h.head
  have hlast : ∀ c ∈ (a.dropWhile p ++ s).getLast?, p c = false := by
    rw [List.getLast?_append, Option.or_of_isSome (List.getLast?_isSome.2 hs)]
    exact h.last
  rw [strip, List.append_assoc, dropWhile_append_bare (by simp [hs]) hhead, ← List.append_assoc,
    dropWhileEnd_bare_append (by simp [hs]) hlast]

theorem strip_isInfix (p : Char → Bool) (s : Text) : strip p s <:+: s := by
  obtain ⟨a, b, hs, -, -⟩ := exists_strip p s
  exact ⟨a, b, hs.symm⟩

/-! ## Blanks -/

theorem trim_of_blank (h : blank s = true) : trim s = [] := by
  have htrim := trim_append_blank (s := []) h
  rwa [List.nil_append, trim_nil] at htrim

theorem not_blank_of_trim (h : trim s ≠ []) : blank s = false := by
  rw [Bool.eq_false_iff]
  exact fun hblank => h (trim_of_blank hblank)

theorem isBlank_of_isDigit {c : Char} (h : c.isDigit = true) : isBlank c = false := by
  have hlow : 48 ≤ c.toNat ∧ c.toNat ≤ 57 := by
    simp only [Char.isDigit, ge_iff_le, Bool.and_eq_true, decide_eq_true_eq] at h
    exact h
  simp [isBlank]
  omega

/-- Letters are no blanks. -/
theorem toLower_of_isBlank {c : Char} (h : isBlank c = true) : c.toLower = c := by
  unfold Char.toLower
  split
  · next hcapital =>
    have hrange : 65 ≤ c.toNat ∧ c.toNat ≤ 90 := hcapital
    simp [isBlank] at h
    omega
  · rfl

/-- The text with blanks around it. -/
def Padded (s t : Text) : Prop :=
  ∃ before after, t = before ++ s ++ after ∧ blank before = true ∧ blank after = true

theorem Padded.refl (s : Text) : Padded s s :=
  ⟨[], [], by simp, rfl, rfl⟩

theorem Padded.trim_eq (h : Padded s t) : trim t = trim s := by
  obtain ⟨before, after, rfl, hbefore, hafter⟩ := h
  rw [trim_append_blank hafter, trim_blank_append hbefore]

theorem padded_trim (s : Text) : Padded (trim s) s :=
  exists_trim s

/-- A text with bare ends is found again under any blanks. -/
theorem padded_iff (hs : BareEnds isBlank s) : Padded s t ↔ trim t = s := by
  constructor
  · exact fun h => h.trim_eq.trans (strip_eq_self_iff.2 hs)
  · rintro rfl
    exact padded_trim t

theorem Padded.not_blank (h : Padded s t) (hs : BareEnds isBlank s) (hne : s ≠ []) :
    blank t = false := by
  refine not_blank_of_trim ?_
  rwa [(padded_iff hs).1 h]

theorem Padded.mem (h : Padded s t) {c : Char} (hc : c ∈ t) : c ∈ s ∨ isBlank c = true := by
  obtain ⟨before, after, rfl, hbefore, hafter⟩ := h
  rcases List.mem_append.1 hc with hc | hc
  · rcases List.mem_append.1 hc with hc | hc
    · exact Or.inr (blank_iff.1 hbefore c hc)
    · exact Or.inl hc
  · exact Or.inr (blank_iff.1 hafter c hc)

/-! ## What follows a text -/

/-- The text ends, or goes on with a character satisfying `p`. -/
def ClosedBy (p : Char → Bool) (rest : Text) : Prop :=
  ∀ c ∈ rest.head?, p c = true

instance : Decidable (ClosedBy p rest) :=
  decidable_of_iff (rest.head?.all p = true) (by simp [ClosedBy, Option.all_eq_true])

theorem exists_first (sep : Char) (s : Text) :
    ∃ rest, s = first sep s ++ rest ∧ ClosedBy (· == sep) rest := by
  refine ⟨s.dropWhile (· != sep), List.takeWhile_append_dropWhile.symm, fun c hc => ?_⟩
  simpa using head?_dropWhile (· != sep) s c hc

theorem first_append_closed (hs : sep ∉ s) (hrest : ClosedBy (· == sep) rest) :
    first sep (s ++ rest) = s := by
  cases rest with
  | nil => rw [List.append_nil, first_of_notMem hs]
  | cons c rest =>
    obtain rfl : c = sep := by simpa using hrest c rfl
    exact first_append hs

/-! ## Comma lists -/

/-- A text that can be an entry of a comma list. -/
structure IsEntry (s : Text) : Prop where
  ne_nil : s ≠ []
  notMem : ',' ∉ s
  bare : BareEnds isBlank s

instance : Decidable (IsEntry s) :=
  decidable_of_iff (s ≠ [] ∧ ',' ∉ s ∧ BareEnds isBlank s)
    ⟨fun ⟨hne, hcomma, hbare⟩ => ⟨hne, hcomma, hbare⟩, fun h => ⟨h.ne_nil, h.notMem, h.bare⟩⟩

/-- The parts of a list with some entries: each of these with blanks around it, in order, and blank
parts anywhere. -/
inductive Spaced : List Text → List Text → Prop
  | nil : Spaced [] []
  | entry {s t : Text} {entries parts : List Text} (h : Padded s t) (rest : Spaced entries parts) :
    Spaced (s :: entries) (t :: parts)
  | gap {t : Text} {entries parts : List Text} (h : blank t = true) (rest : Spaced entries parts) :
    Spaced entries (t :: parts)

/-- A comma list with some entries, in order. -/
def ListText (entries : List Text) (t : Text) : Prop :=
  ∃ parts, Spaced entries parts ∧ t = join [','] parts

theorem pieces_join {parts : List Text} (hne : parts ≠ []) (h : ∀ part ∈ parts, sep ∉ part) :
    pieces sep (join [sep] parts) = parts := by
  induction parts with
  | nil => exact absurd rfl hne
  | cons part parts ih =>
    obtain ⟨hpart, hparts⟩ := List.forall_mem_cons.1 h
    cases parts with
    | nil => exact pieces_of_notMem hpart
    | cons next parts =>
      have hjoin : join [sep] (part :: next :: parts) = part ++ sep :: join [sep] (next :: parts) := by
        simp [join]
      rw [hjoin, pieces_append, pieces_of_notMem hpart, ih (by simp) hparts]
      rfl

variable {entries parts : List Text}

theorem Spaced.notMem (h : Spaced entries parts) (hentries : ∀ s ∈ entries, IsEntry s) :
    ∀ part ∈ parts, ',' ∉ part := by
  induction h with
  | nil => exact fun part hpart => absurd hpart List.not_mem_nil
  | entry h _ ih =>
    obtain ⟨hs, hentries⟩ := List.forall_mem_cons.1 hentries
    refine List.forall_mem_cons.2 ⟨fun hcomma => ?_, ih hentries⟩
    exact (h.mem hcomma).elim hs.notMem (by decide)
  | gap h _ ih => exact List.forall_mem_cons.2 ⟨notMem_of_blank h (by decide), ih hentries⟩

theorem Spaced.filter_trim (h : Spaced entries parts) (hentries : ∀ s ∈ entries, IsEntry s) :
    (parts.map trim).filter (! ·.isEmpty) = entries := by
  induction h with
  | nil => rfl
  | @entry s _ _ _ h _ ih =>
    obtain ⟨hs, hentries⟩ := List.forall_mem_cons.1 hentries
    have htrim : trim s = s := strip_eq_self_iff.2 hs.bare
    rw [List.map_cons, h.trim_eq, htrim,
      List.filter_cons_of_pos (by simpa [List.isEmpty_iff] using hs.ne_nil), ih hentries]
  | gap h _ ih =>
    rw [List.map_cons, trim_of_blank h, List.filter_cons_of_neg (by simp), ih hentries]

/-- **A list has the entries it was written with.** -/
theorem ListText.items_eq (h : ListText entries t) (hentries : ∀ s ∈ entries, IsEntry s) :
    items t = entries := by
  obtain ⟨parts, hparts, rfl⟩ := h
  have hfilter := hparts.filter_trim hentries
  cases parts with
  | nil => exact hfilter
  | cons part parts =>
    rw [items, pieces_join (List.cons_ne_nil part parts) (hparts.notMem hentries), hfilter]

theorem listText_join (entries : List Text) : ListText entries (join [','] entries) := by
  refine ⟨entries, ?_, rfl⟩
  induction entries with
  | nil => exact .nil
  | cons s entries ih => exact .entry (.refl s) ih

/-- The text is a comma list of these entries, and all of them can be entries. -/
structure Lists (t : Text) (entries : List Text) : Prop where
  written : ListText entries t
  isEntry : ∀ s ∈ entries, IsEntry s

/-- Any texts are the parts of a list. -/
theorem spaced_trimmed (parts : List Text) :
    Spaced ((parts.map trim).filter (! ·.isEmpty)) parts := by
  induction parts with
  | nil => exact .nil
  | cons part parts ih =>
    rw [List.map_cons]
    cases hpart : trim part with
    | nil =>
      obtain ⟨before, after, hparts, hbefore, hafter⟩ := padded_trim part
      rw [hpart, List.append_nil] at hparts
      refine .gap ?_ ih
      rw [hparts, blank, List.all_append]
      exact Bool.and_eq_true_iff.2 ⟨hbefore, hafter⟩
    | cons c entry =>
      exact .entry (hpart ▸ padded_trim part) ih

theorem isEntry_of_mem_items (hs : s ∈ items t) : IsEntry s := by
  obtain ⟨hmem, hne⟩ := List.mem_filter.1 hs
  obtain ⟨part, hpart, rfl⟩ := List.mem_map.1 hmem
  refine ⟨by simpa [List.isEmpty_iff] using hne, fun hcomma => ?_, bareEnds_strip isBlank part⟩
  exact notMem_of_mem_pieces hpart ((strip_isInfix isBlank part).subset hcomma)

/-- **Every text is a comma list**, of its items and of nothing else. -/
theorem lists_iff : Lists t entries ↔ items t = entries := by
  constructor
  · exact fun h => h.written.items_eq h.isEntry
  · rintro rfl
    exact ⟨⟨_, spaced_trimmed _, (join_pieces ',' t).symm⟩, fun _ => isEntry_of_mem_items⟩

theorem lists_items (t : Text) : Lists t (items t) :=
  lists_iff.2 rfl

theorem Lists.inj {entries' : List Text} (h : Lists t entries) (h' : Lists t entries') :
    entries = entries' :=
  (lists_iff.1 h).symm.trans (lists_iff.1 h')

/-- The texts are comma lists of these entries, one text after another. -/
def ListInTurn (texts entries : List Text) : Prop :=
  ∃ lists, List.Forall₂ Lists texts lists ∧ lists.flatten = entries

theorem listInTurn_iff {texts : List Text} :
    ListInTurn texts entries ↔ texts.flatMap items = entries := by
  have hlists : ∀ lists, List.Forall₂ Lists texts lists ↔ texts.map items = lists := by
    intro lists
    rw [← List.forall₂_eq_eq_eq, List.forall₂_map_left_iff]
    exact ⟨.imp fun _ _ => lists_iff.1, .imp fun _ _ => lists_iff.2⟩
  simp only [ListInTurn, hlists, exists_eq_left', List.flatMap_def]

theorem items_of_blank (h : blank s = true) : items s = [] := by
  rw [items, pieces_of_notMem (notMem_of_blank h (by decide)), List.map_singleton, trim_of_blank h]
  rfl

end ServerTelemetry.Text
