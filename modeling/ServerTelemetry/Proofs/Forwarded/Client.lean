import ServerTelemetry.Proofs.Extractor.Grouping
import ServerTelemetry.Proofs.Forwarded.Node
import ServerTelemetry.Proofs.Forwarded.Parameters

/-!
# Addresses are read back

A proxy can write the address of a client as a name, with or without a port, in brackets, or as a
literal with several colons (`WritesNode`), bare or in quotes, with blanks anywhere around
(`Wrapped`). It is read back from all of these where it is the first element of a list or the value
of the first `for` parameter (`client_read_back`), and where there is no semicolon the two readers
agree on every text.
-/

namespace ServerTelemetry.Forwarded

open Text

variable {address node s value : Text}

/-- The characters of names and ports. -/
def isNameChar (c : Char) : Bool :=
  ! isBlank c && ! "\"[]:,;".toList.contains c

/-- The characters of an address with colons or in brackets: all but quotes and separators. -/
def isNodeChar (c : Char) : Bool :=
  ! isQuote c && ! isSeparator c

/-- The texts of a node with an address. -/
inductive WritesNode : Text → Text → Prop
  | name {n : Text} (hne : n ≠ []) (hn : ∀ c ∈ n, isNameChar c = true) : WritesNode n n
  | nameWithPort {n p : Text} (hne : n ≠ []) (hn : ∀ c ∈ n, isNameChar c = true)
      (hp : ∀ c ∈ p, isNameChar c = true) : WritesNode n (n ++ ':' :: p)
  | bracketed {a : Text} (hne : a ≠ []) (ha : ∀ c ∈ a, isNodeChar c = true) (hclose : ']' ∉ a)
      (hends : BareEnds isBlank a) : WritesNode a ('[' :: a ++ [']'])
  | bracketedWithPort {a p : Text} (hne : a ≠ []) (ha : ∀ c ∈ a, isNodeChar c = true)
      (hclose : ']' ∉ a) (hends : BareEnds isBlank a) (hp : ∀ c ∈ p, isNameChar c = true) :
    WritesNode a ('[' :: a ++ ']' :: ':' :: p)
  | literal {b : Text} (hb : ∀ c ∈ b, isNodeChar c = true ∧ isBlank c = false)
      (hopen : b.head? ≠ some '[') (hcolons : 2 ≤ b.count ':') : WritesNode b b

/-- The node, bare or in double quotes, with blanks around it, inside the quotes and outside. -/
def Wrapped (node s : Text) : Prop :=
  Padded node s ∨ ∃ t, Padded node t ∧ Padded ('"' :: t ++ ['"']) s

theorem Wrapped.dressed (h : Wrapped node s) : Dressed node s := by
  rcases h with ⟨a, b, rfl, ha, hb⟩ | ⟨t, ⟨a, b, rfl, ha, hb⟩, c, d, rfl, hc, hd⟩
  · exact ⟨a, b, rfl, ⟨a, [], [], by simp, ha, by simp, rfl⟩, [], [], b, by simp, rfl, by simp, hb⟩
  · refine ⟨c ++ ['"'] ++ a, b ++ ['"'] ++ d, by simp, ⟨c, ['"'], a, rfl, hc, rfl, ha⟩, ?_⟩
    exact ⟨b, ['"'], d, rfl, hb, rfl, hd⟩

theorem isNameChar_iff {c : Char} :
    isNameChar c = true ↔ isBlank c = false ∧ c ∉ "\"[]:,;".toList := by
  simp [isNameChar]

theorem isNodeChar_of_isNameChar {c : Char} (h : isNameChar c = true) : isNodeChar c = true := by
  have hc := (isNameChar_iff.1 h).2
  simp_all [isNodeChar, isQuote, isSeparator]

theorem clean_of_forall (h : ∀ c ∈ s, isNodeChar c = true) (hends : BareEnds isBlank s) :
    Clean s := by
  refine ⟨hends, bareEnds_of_forall fun c hc => ?_⟩
  have hnode := h c hc
  simp only [isNodeChar, Bool.and_eq_true, Bool.not_eq_true'] at hnode
  exact hnode.1

theorem clean_of_name (h : ∀ c ∈ s, isNameChar c = true) : Clean s :=
  clean_of_forall (fun c hc => isNodeChar_of_isNameChar (h c hc))
    (bareEnds_of_forall fun c hc => (isNameChar_iff.1 (h c hc)).1)

theorem notMem_of_name (h : ∀ c ∈ s, isNameChar c = true) {c : Char} (hc : isNameChar c = false) :
    c ∉ s := by
  intro hmem
  exact absurd (hc.symm.trans (h c hmem)) (by decide)

theorem head?_ne_of_name (h : ∀ c ∈ s, isNameChar c = true) : s.head? ≠ some '[' :=
  fun hhead => notMem_of_name h (by decide) (List.mem_of_head? hhead)

/-! ## Texts of nodes -/

theorem WritesNode.clean (h : WritesNode address node) : Clean address ∧ address ≠ [] := by
  cases h with
  | name hne hn => exact ⟨clean_of_name hn, hne⟩
  | nameWithPort hne hn => exact ⟨clean_of_name hn, hne⟩
  | bracketed hne ha hclose hends => exact ⟨clean_of_forall ha hends, hne⟩
  | bracketedWithPort hne ha hclose hends => exact ⟨clean_of_forall ha hends, hne⟩
  | literal hb hopen hcolons =>
    refine ⟨clean_of_forall (fun c hc => (hb c hc).1)
      (bareEnds_of_forall fun c hc => (hb c hc).2), ?_⟩
    rintro rfl
    cases hcolons

/-- Every one of these texts renders its address, whatever margins it has. -/
theorem WritesNode.rendered (h : WritesNode address node) (hs : Dressed node s) :
    Rendered address s := by
  obtain ⟨x, y, rfl, hx, hy⟩ := hs
  have hcolon : ':' ∉ y := hy.notMem (by decide) (by decide)
  cases h with
  | name hne hn =>
    refine .bare hx hy (head?_ne_of_name hn) ?_
    rw [List.count_eq_zero_of_not_mem (notMem_of_name hn (by decide))]
    decide
  | @nameWithPort p hne hn hp =>
    rw [List.append_assoc, List.append_assoc, List.cons_append, ← List.append_assoc]
    refine .port hx (head?_ne_of_name hn) (notMem_of_name hn (by decide)) ?_
    rw [List.mem_append, not_or]
    exact ⟨notMem_of_name hp (by decide), hcolon⟩
  | bracketed hne ha hclose =>
    have hshape : x ++ ('[' :: address ++ [']']) ++ y = x ++ '[' :: address ++ ']' :: y := by simp
    exact hshape ▸ .brackets hx hclose
  | @bracketedWithPort p hne ha hclose hends hp =>
    have hshape : x ++ ('[' :: address ++ ']' :: ':' :: p) ++ y =
        x ++ '[' :: address ++ ']' :: (':' :: p ++ y) := by simp
    exact hshape ▸ .brackets hx hclose
  | literal hb hopen hcolons => exact .bare hx hy hopen (by omega)

theorem WritesNode.whole (h : WritesNode address node) : Whole node := by
  have hnode : ∀ {c}, isNodeChar c = true → isSeparator c = false := by
    intro c hc
    simp only [isNodeChar, Bool.and_eq_true, Bool.not_eq_true'] at hc
    exact hc.2
  have hname : ∀ {c}, isNameChar c = true → isSeparator c = false :=
    fun hc => hnode (isNodeChar_of_isNameChar hc)
  cases h with
  | name hne hn => exact fun c hc => hname (hn c hc)
  | nameWithPort hne hn hp =>
    refine whole_append.2 ⟨fun c hc => hname (hn c hc), List.forall_mem_cons.2 ⟨rfl, ?_⟩⟩
    exact fun c hc => hname (hp c hc)
  | bracketed hne ha =>
    refine whole_append.2 ⟨List.forall_mem_cons.2 ⟨rfl, fun c hc => hnode (ha c hc)⟩, ?_⟩
    exact List.forall_mem_singleton.2 rfl
  | bracketedWithPort hne ha hclose hends hp =>
    refine whole_append.2 ⟨List.forall_mem_cons.2 ⟨rfl, fun c hc => hnode (ha c hc)⟩, ?_⟩
    exact List.forall_mem_cons.2 ⟨rfl, List.forall_mem_cons.2 ⟨rfl, fun c hc => hname (hp c hc)⟩⟩
  | literal hb => exact fun c hc => hnode (hb c hc).1

theorem Margin.whole (h : Margin s) : Whole s :=
  whole_iff.2 ⟨h.notMem (by decide) (by decide), h.notMem (by decide) (by decide)⟩

theorem Dressed.whole (h : Dressed node s) (hnode : Whole node) : Whole s := by
  obtain ⟨a, b, rfl, ha, hb⟩ := h
  exact whole_append.2 ⟨whole_append.2 ⟨ha.whole, hnode⟩, hb.whole⟩

/-! ## Both readers -/

/-- Without semicolons, a `for` parameter and a list of addresses are cut off at the same place. -/
theorem client?_eq_plainClient? {v : Text} (hv : ';' ∉ v)
    (h : FirstKey "for".toList v value) : client? value = plainClient? v := by
  obtain ⟨rest, hsplit, hrest⟩ := exists_first ',' v
  have hfirst : Whole (first ',' v) := by
    refine whole_iff.2 ⟨fun hc => ?_, fun hc => hv (by rw [hsplit]; simp [hc])⟩
    exact absurd (List.mem_takeWhile_imp hc) (by decide)
  have hclosed : ClosedBy isSeparator rest := by
    intro c hc
    obtain rfl : c = ',' := by simpa using hrest c hc
    rfl
  rw [hsplit] at h
  rw [client?, h.directive?_eq hfirst hclosed, Option.bind_some, address?_trim, plainClient?]

/-- **Addresses are read back from every rendering**, as the value of the first `for` key whatever
stands in front of it and behind it, and as the first element of a list; and the two readers agree on
every text in which no semicolon ends the parameter. -/
theorem client_read_back :
    (∀ address node s, WritesNode address node → Wrapped node s →
      (∀ rest value, ClosedBy isSeparator rest → FirstKey "for".toList (s ++ rest) value →
        client? value = some address) ∧
      ∀ rest, ClosedBy (· == ',') rest → plainClient? (s ++ rest) = some address) ∧
    ∀ v value, ';' ∉ v → FirstKey "for".toList v value → client? value = plainClient? v := by
  refine ⟨fun address node s hnode hwrapped => ?_, fun v value => client?_eq_plainClient?⟩
  have hdressed := hwrapped.dressed
  have hwhole : Whole s := hdressed.whole hnode.whole
  have haddress : address? s = some address :=
    (address?_eq_some_iff hnode.clean.1 hnode.clean.2).2 (hnode.rendered hdressed)
  constructor
  · intro rest value hrest hfirst
    rw [client?, hfirst.directive?_eq hwhole hrest, Option.bind_some, address?_trim, haddress]
  · intro rest hrest
    rw [plainClient?, first_append_closed (whole_iff.1 hwhole).1 hrest, haddress]

/-- A bracketed address with a port, in quotes, under a key in capitals of the second element. -/
theorem client_read_back_quoted :
    let address := "2001:db8::17".toList
    let node := "[2001:db8::17]:4711".toList
    let s := " \"[2001:db8::17]:4711\" ".toList
    let value := "by=10.0.0.1, FOR = \"[2001:db8::17]:4711\" ;proto=https".toList
    WritesNode address node ∧ Wrapped node s ∧
      FirstKey "for".toList (s ++ ";proto=https".toList) value ∧ client? value = some address ∧
      plainClient? (s ++ ", 10.0.0.2".toList) = some address ∧
      client? "for=10.0.0.1:80, for=".toList = plainClient? "10.0.0.1:80, for=".toList := by
  intro address node s value
  have hnode : WritesNode address node :=
    .bracketedWithPort (p := "4711".toList) (by decide) (List.all_eq_true.1 (by decide))
      (by decide) (by decide) (List.all_eq_true.1 (by decide))
  have hwrapped : Wrapped node s :=
    Or.inr ⟨node, .refl node, [' '], [' '], by decide, by decide, by decide⟩
  have hvalue : value = "by=10.0.0.1".toList ++ ',' ::
      (" FOR ".toList ++ '=' :: (s ++ ";proto=https".toList)) := by decide
  have hother : ¬ Named "for".toList "by=10.0.0.1".toList := parameter?_eq_none_iff.1 (by decide)
  have hfirst : FirstKey "for".toList (s ++ ";proto=https".toList) value :=
    hvalue ▸ .later (by decide) hother (by decide) (.here (by decide) ⟨by decide, by decide⟩)
  have hlist : FirstKey "for".toList "10.0.0.1:80, for=".toList
      ("for".toList ++ '=' :: "10.0.0.1:80, for=".toList) :=
    .here (by decide) ⟨by decide, by decide⟩
  obtain ⟨hread, hagree⟩ := client_read_back
  obtain ⟨hclient, hplain⟩ := hread address node s hnode hwrapped
  exact ⟨hnode, hwrapped, hfirst, hclient _ _ (by decide) hfirst, hplain _ (by decide),
    hagree _ _ (by decide) hlist⟩

end ServerTelemetry.Forwarded
