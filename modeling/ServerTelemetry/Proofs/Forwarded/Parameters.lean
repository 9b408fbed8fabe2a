import ServerTelemetry.Forwarded
import ServerTelemetry.Proofs.Text.Padded

/-!
# Where a directive stands in its value

Commas and semicolons end a parameter alike, so a `Forwarded` value is a text without them
(`Whole`), or such a text before a separator and another value (`separated_induction`). A directive
is what follows the first `=` of the first parameter with its name, up to the next separator
(`directive?_eq_some_iff`); `FirstKey` finds the place in the value as it was sent.
-/

namespace ServerTelemetry.Forwarded

open Text

variable {sep : Char} {name pair value node tail rest s t : Text}

/-! ## Separators -/

/-- The characters that end a parameter. -/
def isSeparator (c : Char) : Bool :=
  c == ',' || c == ';'

/-- A text without separators. -/
def Whole (s : Text) : Prop :=
  ∀ c ∈ s, isSeparator c = false

instance : Decidable (Whole s) :=
  List.decidableBAll (fun c => isSeparator c = false) s

theorem whole_iff : Whole s ↔ ',' ∉ s ∧ ';' ∉ s := by
  constructor
  · intro h
    exact ⟨fun hc => absurd (h _ hc) (by decide), fun hc => absurd (h _ hc) (by decide)⟩
  · rintro ⟨hcomma, hsemicolon⟩ c hc
    have h₁ : c ≠ ',' := fun h => hcomma (h ▸ hc)
    have h₂ : c ≠ ';' := fun h => hsemicolon (h ▸ hc)
    simp [isSeparator, h₁, h₂]

theorem whole_append : Whole (s ++ t) ↔ Whole s ∧ Whole t :=
  List.forall_mem_append

/-- A value is a text without separators, or one before a separator and another value. -/
@[elab_as_elim]
theorem separated_induction {motive : Text → Prop} (whole : ∀ s, Whole s → motive s)
    (append : ∀ pair sep rest, Whole pair → isSeparator sep = true → motive rest →
      motive (pair ++ sep :: rest))
    (value : Text) : motive value := by
  induction hlength : value.length using Nat.strong_induction_on generalizing value with
  | _ length ih =>
    have hvalue := List.takeWhile_append_dropWhile (p := fun c => ! isSeparator c) (l := value)
    have hpair : Whole (value.takeWhile fun c => ! isSeparator c) := by
      intro c hc
      simpa using List.all_eq_true.1 List.all_takeWhile c hc
    have hhead := head?_dropWhile (fun c => ! isSeparator c) value
    cases hdrop : value.dropWhile fun c => ! isSeparator c with
    | nil =>
      rw [hdrop, List.append_nil] at hvalue
      exact whole value (hvalue ▸ hpair)
    | cons sep rest =>
      rw [hdrop] at hvalue hhead
      have hsep : isSeparator sep = true := by simpa using hhead sep rfl
      rw [← hvalue]
      refine append _ sep rest hpair hsep (ih rest.length ?_ rest rfl)
      rw [← hlength, ← hvalue, List.length_append, List.length_cons]
      omega

/-! ## Parameters -/

theorem pieces_append_of_notMem {pieces' : List Text} (hs : sep ∉ s)
    (ht : pieces sep t = pair :: pieces') : pieces sep (s ++ t) = (s ++ pair) :: pieces' := by
  induction s with
  | nil => exact ht
  | cons c s ih =>
    simp only [List.mem_cons, not_or] at hs
    simp [pieces, Ne.symm hs.1, ih hs.2]

theorem parameters_append (hsep : isSeparator sep = true) (s t : Text) :
    parameters (s ++ sep :: t) = parameters s ++ parameters t := by
  have hcomma : ∀ s t, parameters (s ++ ',' :: t) = parameters s ++ parameters t := by
    intro s t
    rw [parameters, pieces_append, List.flatMap_append, parameters, parameters]
  have hlast : ∀ s, ',' ∉ s → parameters (s ++ ';' :: t) = parameters s ++ parameters t := by
    intro s hs
    obtain ⟨pair, pairs, ht⟩ := List.exists_cons_of_ne_nil (pieces_ne_nil ',' t)
    have hpieces : pieces ',' (s ++ [';'] ++ t) = (s ++ [';'] ++ pair) :: pairs :=
      pieces_append_of_notMem (by simp [hs]) ht
    rw [List.append_assoc, List.append_assoc, List.singleton_append, List.singleton_append]
      at hpieces
    simp [parameters, hpieces, ht, pieces_of_notMem hs, pieces_append]
  obtain rfl | rfl : sep = ',' ∨ sep = ';' := by simpa [isSeparator] using hsep
  · exact hcomma s t
  · cases hcut : cutLast ',' s with
    | none => exact hlast s (cutLast_eq_none_iff.1 hcut)
    | some ends =>
      obtain ⟨rfl, hnot⟩ := cutLast_eq_some_iff.1 hcut
      rw [List.append_assoc, List.cons_append, hcomma, hlast _ hnot, hcomma, List.append_assoc]

theorem parameters_of_whole (h : Whole s) : parameters s = [s] := by
  obtain ⟨hcomma, hsemicolon⟩ := whole_iff.1 h
  simp [parameters, pieces_of_notMem hcomma, pieces_of_notMem hsemicolon]

/-! ## Names -/

/-- A key that spells a name: in any letter case, with any blanks around it. -/
structure Spells (name key : Text) : Prop where
  notMem : '=' ∉ key
  same : sameLetters (trim key) name = true

/-- A parameter with a name. -/
def Named (name pair : Text) : Prop :=
  ∃ key value, pair = key ++ '=' :: value ∧ Spells name key

theorem parameter?_append {key : Text} (h : Spells name key) (value : Text) :
    parameter? name (key ++ '=' :: value) = some (trim value) := by
  rw [parameter?, cut_append h.notMem, Option.bind_some]
  exact if_pos h.same

theorem parameter?_eq_some_iff :
    parameter? name pair = some s ↔
      ∃ key value, pair = key ++ '=' :: value ∧ Spells name key ∧ trim value = s := by
  constructor
  · intro h
    obtain ⟨⟨key, value⟩, hcut, h⟩ := Option.bind_eq_some_iff.1 h
    obtain ⟨hpair, hkey⟩ := cut_eq_some_iff.1 hcut
    obtain ⟨hsame, hvalue⟩ := Option.ite_none_right_eq_some.1 h
    exact ⟨key, value, hpair, ⟨hkey, hsame⟩, Option.some.inj hvalue⟩
  · rintro ⟨key, value, rfl, hkey, rfl⟩
    exact parameter?_append hkey value

theorem parameter?_eq_none_iff : parameter? name pair = none ↔ ¬ Named name pair := by
  rw [Option.eq_none_iff_forall_ne_some]
  constructor
  · rintro h ⟨key, value, rfl, hkey⟩
    exact h _ (parameter?_append hkey value)
  · intro h s hs
    obtain ⟨key, value, rfl, hkey, -⟩ := parameter?_eq_some_iff.1 hs
    exact h ⟨key, value, rfl, hkey⟩

instance : Decidable (Named name pair) :=
  decidable_of_iff (parameter? name pair ≠ none) (by rw [Ne, parameter?_eq_none_iff, not_not])

/-! ## The first parameter with a name -/

theorem directive?_append (hsep : isSeparator sep = true) (name s t : Text) :
    directive? name (s ++ sep :: t) = (directive? name s).or (directive? name t) := by
  rw [directive?, parameters_append hsep, List.findSome?_append, directive?, directive?]

theorem directive?_of_whole (h : Whole s) : directive? name s = parameter? name s := by
  rw [directive?, parameters_of_whole h, List.findSome?_singleton]

/-- A value in which the first key that spells a name is followed by `=` and a given text. -/
inductive FirstKey (name tail : Text) : Text → Prop
  | here {key : Text} (whole : Whole key) (spells : Spells name key) :
    FirstKey name tail (key ++ '=' :: tail)
  | later {pair rest : Text} {sep : Char} (whole : Whole pair) (other : ¬ Named name pair)
      (hsep : isSeparator sep = true) (first : FirstKey name tail rest) :
    FirstKey name tail (pair ++ sep :: rest)

/-- A directive ends at the next separator, whatever follows. -/
theorem FirstKey.directive?_eq (h : FirstKey name (s ++ rest) value) (hs : Whole s)
    (hrest : ClosedBy isSeparator rest) : directive? name value = some (trim s) := by
  induction h with
  | @here key hkey hspells =>
    have hpair : directive? name (key ++ '=' :: s) = some (trim s) := by
      have hwhole : Whole (key ++ '=' :: s) :=
        whole_append.2 ⟨hkey, List.forall_mem_cons.2 ⟨rfl, hs⟩⟩
      rw [directive?_of_whole hwhole, parameter?_append hspells]
    cases rest with
    | nil => rwa [List.append_nil]
    | cons sep rest =>
      have hsep : isSeparator sep = true := hrest sep rfl
      rw [← List.cons_append, ← List.append_assoc, directive?_append hsep, hpair,
        Option.some_or]
  | later hpair hother hsep _ ih =>
    rw [directive?_append hsep, directive?_of_whole hpair, parameter?_eq_none_iff.2 hother,
      Option.none_or, ih]

/-- The text of the first parameter with a name: all that stands between its `=` and the next
separator. -/
def FirstText (name node value : Text) : Prop :=
  ∃ rest, FirstKey name (node ++ rest) value ∧ Whole node ∧ ClosedBy isSeparator rest

/-- **A directive is the text of the first parameter with its name**, without blanks around it. -/
theorem directive?_eq_some_iff :
    directive? name value = some s ↔ ∃ node, FirstText name node value ∧ trim node = s := by
  constructor
  · intro h
    induction value using separated_induction with
    | whole value hvalue =>
      rw [directive?_of_whole hvalue] at h
      obtain ⟨key, node, rfl, hkey, rfl⟩ := parameter?_eq_some_iff.1 h
      obtain ⟨hkeyWhole, hnode⟩ := whole_append.1 hvalue
      refine ⟨node, ⟨[], ?_, (List.forall_mem_cons.1 hnode).2, by simp [ClosedBy]⟩, rfl⟩
      rw [List.append_nil]
      exact .here hkeyWhole hkey
    | append pair sep rest hpair hsep ih =>
      rw [directive?_append hsep, directive?_of_whole hpair] at h
      cases hparameter : parameter? name pair with
      | none =>
        rw [hparameter, Option.none_or] at h
        obtain ⟨node, ⟨tail, hfirst, hnode⟩, htrim⟩ := ih h
        exact ⟨node, ⟨tail, .later hpair (parameter?_eq_none_iff.1 hparameter) hsep hfirst, hnode⟩,
          htrim⟩
      | some found =>
        rw [hparameter, Option.some_or, Option.some.injEq] at h
        obtain ⟨key, node, rfl, hkey, htrim⟩ := parameter?_eq_some_iff.1 hparameter
        obtain ⟨hkeyWhole, hnode⟩ := whole_append.1 hpair
        refine ⟨node, ⟨sep :: rest, ?_, (List.forall_mem_cons.1 hnode).2, ?_⟩, htrim.trans h⟩
        · rw [List.append_assoc, List.cons_append]
          exact .here hkeyWhole hkey
        · intro c hc
          obtain rfl : sep = c := by simpa using hc
          exact hsep
  · rintro ⟨node, ⟨rest, hfirst, hnode, hrest⟩, rfl⟩
    exact hfirst.directive?_eq hnode hrest

/-- What is made of a directive is made of the text of the first parameter with its name. -/
theorem bind_directive?_eq_some_iff {finish read : Text → Option Text}
    (hread : ∀ node, finish (trim node) = read node) :
    (directive? name value).bind finish = some s ↔
      ∃ node, FirstText name node value ∧ read node = some s := by
  simp only [Option.bind_eq_some_iff, directive?_eq_some_iff]
  constructor
  · rintro ⟨_, ⟨node, hnode, rfl⟩, hs⟩
    exact ⟨node, hnode, (hread node).symm.trans hs⟩
  · rintro ⟨node, hnode, hs⟩
    exact ⟨_, ⟨node, hnode, rfl⟩, (hread node).trans hs⟩

end ServerTelemetry.Forwarded
