import ServerTelemetry.Forwarded
import ServerTelemetry.Proofs.Text.Padded

/-!
# Nodes and what may stand around them

A node is cleaned in a fixed order, once: blanks, quotes, blanks (`Margin`), then brackets or a port.
`Rendered` is how an address can be written, and one without dirt at its own ends is read from these
nodes and from no others (`address?_eq_some_iff`). No address is read where nothing is rendered or a
bracket is not closed (`address?_eq_none_iff`).
-/

namespace ServerTelemetry.Forwarded

open Text

variable {s t node a b core inner : Text}

/-! ## Blanks and quotes -/

def isQuote (c : Char) : Bool :=
  c == '"'

/-- What is taken off a node's ends: blanks, then quotes, then blanks. -/
def Margin (s : Text) : Prop :=
  ∃ outer quotes inner, s = outer ++ quotes ++ inner ∧
    blank outer = true ∧ quotes.all isQuote = true ∧ blank inner = true

/-- The text with a margin on either side. -/
def Dressed (s node : Text) : Prop :=
  ∃ a b, node = a ++ s ++ b ∧ Margin a ∧ Margin b

/-- Without blanks or quotes at its ends. -/
structure Clean (s : Text) : Prop where
  blanks : BareEnds isBlank s
  quotes : BareEnds isQuote s

instance : Decidable (Clean s) :=
  decidable_of_iff (BareEnds isBlank s ∧ BareEnds isQuote s)
    ⟨fun h => ⟨h.1, h.2⟩, fun h => ⟨h.blanks, h.quotes⟩⟩

theorem clean_nil : Clean [] := by
  decide

theorem Clean.append (hs : Clean s) (ht : Clean t) : Clean (s ++ t) :=
  ⟨hs.blanks.append ht.blanks, hs.quotes.append ht.quotes⟩

theorem clean_around (ha : Clean a) (hb : Clean b) (hane : a ≠ []) (hbne : b ≠ []) (s : Text) :
    Clean (a ++ s ++ b) :=
  ⟨bareEnds_around ha.blanks hb.blanks hane hbne s, bareEnds_around ha.quotes hb.quotes hane hbne s⟩

/-- What is left of a text in front of a clean one. -/
def lead (s : Text) : Text :=
  ((s.dropWhile isBlank).dropWhile isQuote).dropWhile isBlank

/-- What is left of a text behind a clean one. -/
def trail (s : Text) : Text :=
  dropWhileEnd isBlank (dropWhileEnd isQuote (dropWhileEnd isBlank s))

theorem isBlank_of_isQuote {c : Char} (h : isQuote c = true) : isBlank c = false := by
  obtain rfl : c = '"' := by simpa [isQuote] using h
  rfl

theorem Margin.mem (h : Margin s) {c : Char} (hc : c ∈ s) : isBlank c = true ∨ isQuote c = true := by
  obtain ⟨outer, quotes, inner, rfl, houter, hquotes, hinner⟩ := h
  rcases List.mem_append.1 hc with hc | hc
  · rcases List.mem_append.1 hc with hc | hc
    · exact Or.inl (blank_iff.1 houter c hc)
    · exact Or.inr (List.all_eq_true.1 hquotes c hc)
  · exact Or.inl (blank_iff.1 hinner c hc)

theorem Margin.notMem (h : Margin s) {c : Char} (hblank : isBlank c = false)
    (hquote : isQuote c = false) : c ∉ s := by
  intro hc
  rcases h.mem hc with hc | hc
  · exact absurd (hblank.symm.trans hc) (by decide)
  · exact absurd (hquote.symm.trans hc) (by decide)

theorem Margin.reverse (h : Margin s) : Margin s.reverse := by
  obtain ⟨outer, quotes, inner, rfl, houter, hquotes, hinner⟩ := h
  refine ⟨inner.reverse, quotes.reverse, outer.reverse, by simp, ?_, ?_, ?_⟩
  · simpa [blank] using hinner
  · simpa using hquotes
  · simpa [blank] using houter

theorem Margin.lead_eq (h : Margin s) : lead s = [] := by
  obtain ⟨outer, quotes, inner, rfl, houter, hquotes, hinner⟩ := h
  have hrest : (inner.dropWhile isQuote).dropWhile isBlank = [] := by
    refine List.dropWhile_eq_nil_iff.2 fun c hc => ?_
    exact blank_iff.1 hinner c ((List.dropWhile_suffix _).subset hc)
  rw [lead, List.append_assoc, List.dropWhile_append_of_pos (blank_iff.1 houter)]
  cases quotes with
  | nil =>
    rw [List.nil_append, List.dropWhile_eq_nil_iff.2 (blank_iff.1 hinner)]
    rfl
  | cons c quotes =>
    rw [List.all_eq_true] at hquotes
    have hc : isBlank c = false := isBlank_of_isQuote (hquotes c List.mem_cons_self)
    rw [List.cons_append, List.dropWhile_cons_of_neg (by simp [hc]), ← List.cons_append,
      List.dropWhile_append_of_pos hquotes, hrest]

theorem Margin.trail_eq (h : Margin s) : trail s = [] := by
  have hlead := h.reverse.lead_eq
  simpa [trail, dropWhileEnd, lead] using hlead

theorem trail_subset (s : Text) : trail s ⊆ s := by
  have h : ∀ p s, dropWhileEnd p s ⊆ s := fun p s => (dropWhileEnd_isPrefix p s).subset
  exact List.Subset.trans (h _ _) (List.Subset.trans (h _ _) (h _ _))

/-- Cleaning a node stops on both sides of a clean text in it. -/
theorem bareNode_around (hcore : Clean core) (hne : core ≠ []) (a b : Text) :
    bareNode (a ++ core ++ b) = lead a ++ core ++ trail b := by
  have htrim : ∀ a b, trim (a ++ core ++ b) =
      a.dropWhile isBlank ++ core ++ dropWhileEnd isBlank b :=
    strip_around hne hcore.blanks
  have hunquote : ∀ a b, unquote (a ++ core ++ b) =
      a.dropWhile isQuote ++ core ++ dropWhileEnd isQuote b :=
    strip_around hne hcore.quotes
  rw [bareNode, htrim, hunquote, htrim, lead, trail]

theorem bareNode_behind (hcore : Clean core) (hne : core ≠ []) (ha : Margin a) (b : Text) :
    bareNode (a ++ core ++ b) = core ++ trail b := by
  rw [bareNode_around hcore hne, ha.lead_eq, List.nil_append]

/-- A node is what cleaning leaves of it, between margins. -/
theorem dressed_bareNode (node : Text) : Dressed (bareNode node) node := by
  obtain ⟨a₁, b₁, hnode, ha₁, hb₁⟩ := exists_trim node
  obtain ⟨a₂, b₂, htrim, ha₂, hb₂⟩ := exists_strip isQuote (trim node)
  obtain ⟨a₃, b₃, hunquote, ha₃, hb₃⟩ := exists_trim (unquote (trim node))
  refine ⟨a₁ ++ a₂ ++ a₃, b₃ ++ b₂ ++ b₁, ?_, ⟨a₁, a₂, a₃, rfl, ha₁, List.all_eq_true.2 ha₂, ha₃⟩, ?_⟩
  · calc node = a₁ ++ (a₂ ++ (a₃ ++ bareNode node ++ b₃) ++ b₂) ++ b₁ := by
          rw [bareNode, ← hunquote, unquote]
          exact htrim ▸ hnode
      _ = a₁ ++ a₂ ++ a₃ ++ bareNode node ++ (b₃ ++ b₂ ++ b₁) := by simp
  · exact ⟨b₃, b₂, b₁, rfl, hb₃, List.all_eq_true.2 hb₂, hb₁⟩

theorem unquote_eq (s : Text) : unquote s = strip isQuote s := rfl

theorem unquote_of_quotes (h : ∀ c ∈ s, isQuote c = true) : unquote s = [] := by
  rw [unquote_eq, strip, List.dropWhile_eq_nil_iff.2 h]
  rfl

theorem trim_of_quotes (h : ∀ c ∈ s, isQuote c = true) : trim s = s :=
  trim_eq_self fun c hc => isBlank_of_isQuote (h c hc)

theorem unquote_of_notMem (h : '"' ∉ s) : unquote s = s := by
  refine strip_eq_self fun c hc => ?_
  rw [beq_eq_false_iff_ne]
  rintro rfl
  exact h hc

theorem bareNode_of_notMem (h : '"' ∉ node) : bareNode node = trim node := by
  have htrim : '"' ∉ trim node := fun hc => h ((strip_isInfix _ _).subset hc)
  rw [bareNode, unquote_of_notMem htrim, trim_trim]

theorem bareNode_of_dressed_nil (h : Dressed [] node) : bareNode node = [] := by
  obtain ⟨_, _, rfl, ⟨outer, front, inner, rfl, houter, hfront, hinner⟩,
    inner', back, outer', rfl, hinner', hback, houter'⟩ := h
  rw [List.all_eq_true] at hfront hback
  have hmid : blank (inner ++ inner') = true := by
    rw [blank_iff, List.forall_mem_append]
    exact ⟨blank_iff.1 hinner, blank_iff.1 hinner'⟩
  have hnode : outer ++ front ++ inner ++ [] ++ (inner' ++ back ++ outer') =
      outer ++ (front ++ (inner ++ inner') ++ back) ++ outer' := by simp
  -- Two rows of quotes with blanks between them are as good as one.
  suffices h : blank (unquote (trim (front ++ (inner ++ inner') ++ back))) = true by
    rw [hnode, bareNode, trim_append_blank houter', trim_blank_append houter, trim_of_blank h]
  cases front with
  | nil =>
    rw [List.nil_append, trim_blank_append hmid, trim_of_quotes hback, unquote_of_quotes hback]
    rfl
  | cons c front =>
    cases back with
    | nil =>
      rw [List.append_nil, trim_append_blank hmid, trim_of_quotes hfront,
        unquote_of_quotes hfront]
      rfl
    | cons d back =>
      have hends : ∀ {quotes : Text}, (∀ e ∈ quotes, isQuote e = true) → BareEnds isBlank quotes :=
        fun h => bareEnds_of_forall fun e he => isBlank_of_isQuote (h e he)
      have hbare := bareEnds_around (hends hfront) (hends hback) (List.cons_ne_nil c front)
        (List.cons_ne_nil d back) (inner ++ inner')
      rw [trim, strip_eq_self_iff.2 hbare, unquote_eq, strip_append_right hback,
        strip_append_left hfront, blank_iff]
      exact fun e he => blank_iff.1 hmid e ((strip_isInfix _ _).subset he)

theorem bareNode_of_dressed (hs : Clean s) (h : Dressed s node) : bareNode node = s := by
  by_cases hne : s = []
  · subst hne
    exact bareNode_of_dressed_nil h
  · obtain ⟨a, b, rfl, ha, hb⟩ := h
    rw [bareNode_behind hs hne ha, hb.trail_eq, List.append_nil]

/-! ## Shapes of a node -/

/-- How an address can be written: alone, unless it has exactly one colon, with a port or in
brackets. -/
inductive Rendered (s : Text) : Text → Prop
  | bare {a b : Text} (ha : Margin a) (hb : Margin b) (hhead : s.head? ≠ some '[')
      (hcolon : s.count ':' ≠ 1) : Rendered s (a ++ s ++ b)
  | port {a b : Text} (ha : Margin a) (hhead : s.head? ≠ some '[') (hs : ':' ∉ s) (hb : ':' ∉ b) :
    Rendered s (a ++ s ++ ':' :: b)
  | brackets {a b : Text} (ha : Margin a) (hs : ']' ∉ s) : Rendered s (a ++ '[' :: s ++ ']' :: b)

/-- A bracket in front that is not closed. -/
def Unclosed (node : Text) : Prop :=
  ∃ a b, node = a ++ '[' :: b ∧ Margin a ∧ ']' ∉ b

theorem address?_of_bracket (h : bareNode node = '[' :: inner) :
    address? node = (cut ']' inner).bind fun cut => nonEmpty? cut.1 := by
  simp only [address?, h]

theorem address?_of_bare (h : (bareNode node).head? ≠ some '[') :
    address? node =
      nonEmpty? (if (bareNode node).count ':' = 1 then first ':' (bareNode node)
        else bareNode node) := by
  unfold address?
  split
  · next hbare => exact absurd (by rw [hbare]; rfl) h
  · rfl

/-- A text that is clean is read from its renderings, if it is not empty. -/
theorem Rendered.address?_eq (h : Rendered s node) (hs : Clean s) :
    address? node = nonEmpty? s := by
  cases h with
  | bare ha hb hhead hcolon =>
    have hbare := bareNode_of_dressed hs ⟨_, _, rfl, ha, hb⟩
    rw [address?_of_bare (by rwa [hbare]), hbare, if_neg hcolon]
  | @port a b ha hhead hname hb =>
    have hcore : Clean (s ++ [':']) := hs.append (by decide)
    have hbare : bareNode (a ++ s ++ ':' :: b) = s ++ ':' :: trail b := by
      have h := bareNode_behind hcore (by simp) ha b
      simpa using h
    have hcount : (s ++ ':' :: trail b).count ':' = 1 := by
      have hb' : ':' ∉ trail b := fun h => hb (trail_subset b h)
      simp [List.count_eq_zero_of_not_mem hname, List.count_eq_zero_of_not_mem hb']
    have hhead' : (s ++ ':' :: trail b).head? ≠ some '[' := by
      cases s with
      | nil => simp
      | cons c s => exact hhead
    rw [address?_of_bare (by rwa [hbare]), hbare, if_pos hcount, first_append hname]
  | @brackets a b ha hname =>
    have hcore : Clean (['['] ++ s ++ [']']) :=
      clean_around (by decide) (by decide) (by simp) (by simp) s
    have hbare : bareNode (a ++ '[' :: s ++ ']' :: b) = '[' :: (s ++ ']' :: trail b) := by
      have h := bareNode_behind hcore (by simp) ha b
      simpa using h
    rw [address?_of_bracket hbare, cut_append hname, Option.bind_some]

theorem address?_of_unclosed (h : Unclosed node) : address? node = none := by
  obtain ⟨a, b, rfl, ha, hb⟩ := h
  have hcore : Clean ['['] := by decide
  have hbare : bareNode (a ++ '[' :: b) = '[' :: trail b := by
    have h := bareNode_behind hcore (by simp) ha b
    simpa using h
  rw [address?_of_bracket hbare, cut_eq_none_iff.2 fun h => hb (trail_subset b h),
    Option.bind_none]

/-- Whatever is read from a node is rendered in it, unless a bracket is not closed. -/
theorem address?_cases (node : Text) :
    (∃ s, Rendered s node ∧ address? node = nonEmpty? s) ∨ Unclosed node := by
  obtain ⟨a, b, hnode, ha, hb⟩ := dressed_bareNode node
  by_cases hhead : (bareNode node).head? = some '['
  · obtain ⟨inner, hbare⟩ := List.head?_eq_some_iff.1 hhead
    rw [hbare] at hnode
    cases hcut : cut ']' inner with
    | none =>
      refine Or.inr ⟨a, inner ++ b, by rw [hnode]; simp, ha, ?_⟩
      rw [List.mem_append, not_or]
      exact ⟨cut_eq_none_iff.1 hcut, hb.notMem (by decide) (by decide)⟩
    | some ends =>
      obtain ⟨name, rest⟩ := ends
      obtain ⟨rfl, hname⟩ := cut_eq_some_iff.1 hcut
      have hshape : node = a ++ '[' :: name ++ ']' :: (rest ++ b) := by rw [hnode]; simp
      refine Or.inl ⟨name, hshape ▸ .brackets ha hname, ?_⟩
      rw [address?_of_bracket hbare, hcut, Option.bind_some]
  · rw [address?_of_bare hhead]
    split
    · next hcount =>
      have hmem : ':' ∈ bareNode node := List.count_pos_iff.1 (by omega)
      obtain ⟨⟨name, port⟩, hcut⟩ :=
        Option.ne_none_iff_exists'.1 fun h => cut_eq_none_iff.1 h hmem
      obtain ⟨hbare, hname⟩ := cut_eq_some_iff.1 hcut
      have hport : ':' ∉ port := by
        rw [hbare, List.count_append, List.count_cons_self] at hcount
        exact fun h => absurd (List.count_pos_iff.2 h) (by omega)
      rw [hbare] at hnode hhead
      have hshape : node = a ++ name ++ ':' :: (port ++ b) := by rw [hnode]; simp
      refine Or.inl ⟨name, hshape ▸ .port ha (fun h => hhead ?_) hname ?_, ?_⟩
      · rw [List.head?_append, h, Option.some_or]
      · rw [List.mem_append, not_or]
        exact ⟨hport, hb.notMem (by decide) (by decide)⟩
      · rw [hbare, first_append hname]
    · next hcount =>
      refine Or.inl ⟨bareNode node, ?_, rfl⟩
      have hrendered := Rendered.bare ha hb hhead hcount
      rwa [← hnode] at hrendered

/-- **An address that is clean is read from its renderings, and from nothing else.** -/
theorem address?_eq_some_iff (hs : Clean s) (hne : s ≠ []) :
    address? node = some s ↔ Rendered s node := by
  constructor
  · intro h
    rcases address?_cases node with ⟨t, ht, hread⟩ | hunclosed
    · obtain ⟨rfl, -⟩ := nonEmpty?_eq_some_iff.1 (hread.symm.trans h)
      exact ht
    · cases h.symm.trans (address?_of_unclosed hunclosed)
  · intro h
    rw [h.address?_eq hs]
    exact nonEmpty?_eq_some_iff.2 ⟨rfl, hne⟩

/-- **No address is read where there is none**: from a node in which nothing is rendered, or in which
a bracket is not closed. -/
theorem address?_eq_none_iff : address? node = none ↔ Rendered [] node ∨ Unclosed node := by
  constructor
  · intro h
    refine (address?_cases node).imp ?_ id
    rintro ⟨s, hs, hread⟩
    cases s with
    | nil => exact hs
    | cons c s => cases h.symm.trans hread
  · rintro (h | h)
    · exact h.address?_eq clean_nil
    · exact address?_of_unclosed h

end ServerTelemetry.Forwarded
