import ServerTelemetry.Proofs.Extractor.Grouping
import ServerTelemetry.Proofs.Forwarded.Node
import ServerTelemetry.Proofs.Forwarded.Parameters

/-!
# What is read is clean, or is not

An answer is always a piece of its value, not empty and without commas. Whether it is clean depends
on the node: each of its ends is cleaned once, before brackets and port are taken off, so blanks,
quotes and brackets that come to light by that stay. A node is read as a clean text if and only if it
is written as one, and the answer is clean wherever blanks and quotes are at the node's ends alone and
its brackets are a pair (`Tidy`).
-/

namespace ServerTelemetry.Forwarded

open Text

variable {name node value s core : Text}

/-! ## Pieces of a value -/

theorem FirstKey.suffix {tail : Text} (h : FirstKey name tail value) : tail <:+ value := by
  induction h with
  | @here key whole spells => exact ⟨key ++ ['='], by simp⟩
  | @later pair rest sep whole other hsep first ih =>
    have hrest : rest <:+ pair ++ sep :: rest := ⟨pair ++ [sep], by simp⟩
    exact ih.trans hrest

theorem FirstText.isInfix (h : FirstText name node value) : node <:+: value := by
  obtain ⟨rest, hfirst, -, -⟩ := h
  exact (List.prefix_append node rest).isInfix.trans hfirst.suffix.isInfix

theorem Rendered.isInfix (h : Rendered s node) : s <:+: node := by
  cases h with
  | @bare a b => exact ⟨a, b, rfl⟩
  | @port a b => exact ⟨a, ':' :: b, rfl⟩
  | @brackets a b => exact ⟨a ++ ['['], ']' :: b, by simp⟩

theorem Dressed.isInfix (h : Dressed s node) : s <:+: node := by
  obtain ⟨a, b, rfl, -, -⟩ := h
  exact ⟨a, b, rfl⟩

theorem rendered_of_address? (h : address? node = some s) : Rendered s node ∧ s ≠ [] := by
  rcases address?_cases node with ⟨t, ht, hread⟩ | hunclosed
  · obtain ⟨rfl, hne⟩ := nonEmpty?_eq_some_iff.1 (hread.symm.trans h)
    exact ⟨ht, hne⟩
  · cases h.symm.trans (address?_of_unclosed hunclosed)

/-! ## Tidy nodes -/

/-- A node with blanks and quotes at its ends alone, and without brackets that are not a pair around
the address. -/
def Tidy (node : Text) : Prop :=
  ∃ core, Dressed core node ∧ (∀ c ∈ core, isBlank c = false ∧ isQuote c = false) ∧
    '[' ∉ core.tail ∧ (']' ∈ core → core.head? = some '[')

theorem clean_of_tidy (h : Tidy node) (hs : address? node = some s) :
    Clean s ∧ '[' ∉ s ∧ ']' ∉ s := by
  obtain ⟨core, hdressed, hplain, hopen, hclose⟩ := h
  have hclean : ∀ t, t ⊆ core → Clean t := fun t ht =>
    ⟨bareEnds_of_forall fun c hc => (hplain c (ht hc)).1,
      bareEnds_of_forall fun c hc => (hplain c (ht hc)).2⟩
  have hbare : bareNode node = core := bareNode_of_dressed (hclean core (List.Subset.refl _)) hdressed
  by_cases hhead : core.head? = some '['
  · obtain ⟨inner, rfl⟩ := List.head?_eq_some_iff.1 hhead
    rw [address?_of_bracket hbare] at hs
    obtain ⟨⟨found, rest⟩, hcut, hs⟩ := Option.bind_eq_some_iff.1 hs
    obtain ⟨rfl, -⟩ := nonEmpty?_eq_some_iff.1 hs
    obtain ⟨rfl, hfound⟩ := cut_eq_some_iff.1 hcut
    refine ⟨hclean _ fun c hc => ?_, fun hc => hopen ?_, hfound⟩
    · exact List.mem_cons_of_mem _ (List.mem_append_left _ hc)
    · exact List.mem_append_left _ hc
  · have hnot : '[' ∉ core ∧ ']' ∉ core := by
      refine ⟨fun hc => ?_, fun hc => hhead (hclose hc)⟩
      cases core with
      | nil => cases hc
      | cons c core =>
        rcases List.mem_cons.1 hc with rfl | hc
        · exact hhead rfl
        · exact hopen hc
    have hsub : s ⊆ core := by
      rw [address?_of_bare (by rwa [hbare]), hbare] at hs
      obtain ⟨rfl, -⟩ := nonEmpty?_eq_some_iff.1 hs
      split
      · exact List.takeWhile_subset _
      · exact List.Subset.refl _
    exact ⟨hclean s hsub, fun hc => hnot.1 (hsub hc), fun hc => hnot.2 (hsub hc)⟩

/-! ## Answers -/

variable {source : Text → Prop} {answer : Option Text}

/-- What an answer says of the nodes of a value that it is read from. -/
structure AddressRead (value : Text) (source : Text → Prop) (answer : Option Text) : Prop where
  piece : ∀ s ∈ answer, s ≠ [] ∧ s <:+: value ∧ ',' ∉ s
  tidy : (∀ node, source node → Tidy node) → ∀ s ∈ answer, Clean s ∧ '[' ∉ s ∧ ']' ∉ s
  clean_iff : ∀ s, Clean s → s ≠ [] → (answer = some s ↔ ∃ node, source node ∧ Rendered s node)
  none_iff : answer = none ↔ ∀ node, source node → Rendered [] node ∨ Unclosed node

structure SchemeRead (value : Text) (source : Text → Prop) (answer : Option Text) : Prop where
  piece : ∀ s ∈ answer, s ≠ [] ∧ s <:+: value ∧ ',' ∉ s
  blanks : ∀ s ∈ answer, BareEnds isBlank s
  tidy : (∀ node, source node → ∃ core, Dressed core node ∧ Clean core) → ∀ s ∈ answer, Clean s
  clean_iff : ∀ s, Clean s → s ≠ [] → (answer = some s ↔ ∃ node, source node ∧ Dressed s node)
  none_iff : answer = none ↔ ∀ node, source node → Dressed [] node

theorem eq_none_iff_of_read {read : Text → Option Text}
    (hanswer : ∀ s, answer = some s ↔ ∃ node, source node ∧ read node = some s) :
    answer = none ↔ ∀ node, source node → read node = none := by
  simp only [Option.eq_none_iff_forall_ne_some, Ne, hanswer, not_exists, not_and]
  exact ⟨fun h node hnode s => h s node hnode, fun h s node hnode => h node hnode s⟩

theorem addressRead (hsource : ∀ node, source node → node <:+: value ∧ ',' ∉ node)
    (hanswer : ∀ s, answer = some s ↔ ∃ node, source node ∧ address? node = some s) :
    AddressRead value source answer := by
  refine ⟨fun s hs => ?_, fun htidy s hs => ?_, fun s hs hne => ?_, ?_⟩
  · obtain ⟨node, hnode, hread⟩ := (hanswer s).1 hs
    obtain ⟨hrendered, hne⟩ := rendered_of_address? hread
    obtain ⟨hpiece, hcomma⟩ := hsource node hnode
    exact ⟨hne, hrendered.isInfix.trans hpiece, fun hc => hcomma (hrendered.isInfix.subset hc)⟩
  · obtain ⟨node, hnode, hread⟩ := (hanswer s).1 hs
    exact clean_of_tidy (htidy node hnode) hread
  · simp only [hanswer, address?_eq_some_iff hs hne]
  · simp only [eq_none_iff_of_read hanswer, address?_eq_none_iff]

theorem bareNode_eq_iff (hs : Clean s) : bareNode node = s ↔ Dressed s node :=
  ⟨fun h => h ▸ dressed_bareNode node, bareNode_of_dressed hs⟩

theorem schemeRead (hsource : ∀ node, source node → node <:+: value ∧ ',' ∉ node)
    (hanswer : ∀ s, answer = some s ↔ ∃ node, source node ∧ nonEmpty? (bareNode node) = some s) :
    SchemeRead value source answer := by
  have hread : ∀ s ∈ answer, ∃ node, source node ∧ bareNode node = s ∧ s ≠ [] := by
    intro s hs
    obtain ⟨node, hnode, hread⟩ := (hanswer s).1 hs
    exact ⟨node, hnode, nonEmpty?_eq_some_iff.1 hread⟩
  refine ⟨fun s hs => ?_, fun s hs => ?_, fun htidy s hs => ?_, fun s hs hne => ?_, ?_⟩
  · obtain ⟨node, hnode, rfl, hne⟩ := hread s hs
    obtain ⟨hpiece, hcomma⟩ := hsource node hnode
    have hbare := (dressed_bareNode node).isInfix
    exact ⟨hne, hbare.trans hpiece, fun hc => hcomma (hbare.subset hc)⟩
  · obtain ⟨node, -, rfl, -⟩ := hread s hs
    exact bareEnds_strip isBlank _
  · obtain ⟨node, hnode, rfl, -⟩ := hread s hs
    obtain ⟨core, hdressed, hcore⟩ := htidy node hnode
    rwa [bareNode_of_dressed hcore hdressed]
  · simp only [hanswer, nonEmpty?_eq_some_iff, bareNode_eq_iff hs, hne, ne_eq, not_false_eq_true,
      and_true]
  · have hnone : ∀ t, nonEmpty? t = none ↔ t = [] := by
      intro t
      cases t <;> simp
    simp only [eq_none_iff_of_read hanswer, hnone, bareNode_eq_iff clean_nil]

/-- **What is read is clean where the node is tidy**, it is a piece of the value in any case, and a
clean text is read from the nodes that are written as it, and from no others. -/
theorem answers_clean (value : Text) :
    AddressRead value (fun node => FirstText "for".toList node value) (client? value) ∧
    AddressRead value (· = first ',' value) (plainClient? value) ∧
    SchemeRead value (fun node => FirstText "proto".toList node value) (scheme? value) := by
  have hparameter : ∀ name node, FirstText name node value → node <:+: value ∧ ',' ∉ node := by
    intro name node h
    obtain ⟨-, -, hwhole, -⟩ := id h
    exact ⟨h.isInfix, (whole_iff.1 hwhole).1⟩
  refine ⟨addressRead (hparameter _) fun s => ?_, addressRead ?_ fun s => ?_,
    schemeRead (hparameter _) fun s => ?_⟩
  · exact bind_directive?_eq_some_iff address?_trim
  · rintro _ rfl
    have hfront : first ',' value <+: value := List.takeWhile_prefix _
    exact ⟨hfront.isInfix, fun hc => absurd (List.mem_takeWhile_imp hc) (by decide)⟩
  · rw [plainClient?]
    simp
  · exact bind_directive?_eq_some_iff fun _ => rfl

/-- An address in brackets with a port, in quotes, and a scheme with a blank inside its quotes. -/
theorem answers_clean_quoted :
    let address := "::1".toList
    let node := "\"[::1]:80\" ".toList
    let value := "for=\"[::1]:80\" ;proto=\" https\"".toList
    let list := "\"[::1]:80\" , 10.0.0.1".toList
    FirstText "for".toList node value ∧ Tidy node ∧ Rendered address node ∧
      client? value = some address ∧
      (∀ s ∈ plainClient? list, Clean s ∧ '[' ∉ s ∧ ']' ∉ s) ∧
      ∀ s ∈ scheme? value, BareEnds isBlank s := by
  intro address node value list
  have hkey : FirstKey "for".toList (node ++ ";proto=\" https\"".toList)
      ("for".toList ++ '=' :: (node ++ ";proto=\" https\"".toList)) :=
    .here (by decide) ⟨by decide, by decide⟩
  have hfirst : FirstText "for".toList node value := ⟨_, hkey, by decide, by decide⟩
  have hplain : "[::1]:80".toList.all (fun c => ! isBlank c && ! isQuote c) = true := by decide
  have htidy : Tidy node :=
    ⟨"[::1]:80".toList, ⟨['"'], ['"', ' '], by decide, ⟨[], ['"'], [], by decide⟩, [], ['"'], [' '],
      by decide⟩, fun c hc => by simpa using List.all_eq_true.1 hplain c hc, by decide, by decide⟩
  have hrendered : Rendered address (['"'] ++ '[' :: address ++ ']' :: ":80\" ".toList) :=
    .brackets ⟨[], ['"'], [], by decide⟩ (by decide)
  obtain ⟨hclient, -, hscheme⟩ := answers_clean value
  obtain ⟨-, hplain, -⟩ := answers_clean list
  refine ⟨hfirst, htidy, hrendered, ?_, hplain.tidy ?_, hscheme.blanks⟩
  · exact (hclient.clean_iff address (by decide) (by decide)).2 ⟨node, hfirst, hrendered⟩
  · rintro _ rfl
    exact htidy

/-- Blanks in brackets, a blank in front of a port, a quote behind a port, a bracket that is not
opened, and quotes that blanks part. -/
theorem dirty_answers :
    client? "for=\"[ ]\"".toList = some " ".toList ∧
      plainClient? "1.1.1.1 :80".toList = some "1.1.1.1 ".toList ∧
      plainClient? "\"1.1.1.1\":80".toList = some "1.1.1.1\"".toList ∧
      plainClient? "::1]".toList = some "::1]".toList ∧
      scheme? "proto=\" \"https".toList = some "\"https".toList := by
  decide

end ServerTelemetry.Forwarded
