import ServerTelemetry.Text.Blank

/-!
# Labels

A set of names with a text for each. Labels are kept in the order of their names, each name once,
so that two sets with the same labels are equal. `find?_insert` says what writing a label does: the
name gets its new text and every other name keeps its own.
-/

namespace ServerTelemetry

/-- Names with a text for each. -/
structure Labels where
  /-- The labels, in the order of their names. -/
  entries : List (Text × Text) := []
  sorted : (entries.map Prod.fst).Pairwise (· < ·) := by decide
  deriving DecidableEq, Repr

namespace Labels

/-- Of two names that are different, one comes first. -/
theorem lt_of_not_lt_of_ne {a b : Text} (h : ¬ a < b) (hne : a ≠ b) : b < a := by
  rcases Std.Trichotomous.rel_or_eq_or_rel_swap
    (r := (· < · : Text → Text → Prop)) (a := a) (b := b) with h' | h' | h'
  · exact absurd h' h
  · exact absurd h' hne
  · exact h'

/-- Puts a label in its place, instead of the one with its name. -/
def insertEntry (name text : Text) : List (Text × Text) → List (Text × Text)
  | [] => [(name, text)]
  | (other, old) :: entries =>
    if name < other then (name, text) :: (other, old) :: entries
    else if name = other then (name, text) :: entries
    else (other, old) :: insertEntry name text entries

theorem mem_insertEntry_names {name text x : Text} {entries : List (Text × Text)}
    (h : x ∈ (insertEntry name text entries).map Prod.fst) :
    x = name ∨ x ∈ entries.map Prod.fst := by
  induction entries with
  | nil => simpa [insertEntry] using h
  | cons e entries ih =>
    rcases e with ⟨other, old⟩
    unfold insertEntry at h
    split at h
    · simpa using h
    · split at h
      · simp only [List.map_cons, List.mem_cons] at h ⊢
        rcases h with h | h
        · exact .inl h
        · exact .inr (.inr h)
      · simp only [List.map_cons, List.mem_cons] at h ⊢
        rcases h with h | h
        · exact .inr (.inl h)
        · rcases ih h with h | h
          · exact .inl h
          · exact .inr (.inr h)

theorem insertEntry_sorted {name text : Text} {entries : List (Text × Text)}
    (h : (entries.map Prod.fst).Pairwise (· < ·)) :
    ((insertEntry name text entries).map Prod.fst).Pairwise (· < ·) := by
  induction entries with
  | nil => simp [insertEntry]
  | cons e entries ih =>
    rcases e with ⟨other, old⟩
    simp only [List.map_cons, List.pairwise_cons] at h
    unfold insertEntry
    split
    · next hlt =>
      simp only [List.map_cons, List.pairwise_cons, List.mem_cons]
      refine ⟨?_, h⟩
      rintro x (rfl | hx)
      · exact hlt
      · exact List.lt_trans hlt (h.1 x hx)
    · next hlt =>
      split
      · next heq =>
        subst heq
        simpa using h
      · next hne =>
        simp only [List.map_cons, List.pairwise_cons]
        refine ⟨?_, ih h.2⟩
        intro x hx
        rcases mem_insertEntry_names hx with rfl | hx
        · exact lt_of_not_lt_of_ne hlt hne
        · exact h.1 x hx

/-- No labels. -/
def empty : Labels := {}

/-- Writes a label. -/
def insert (labels : Labels) (name text : Text) : Labels where
  entries := insertEntry name text labels.entries
  sorted := insertEntry_sorted labels.sorted

/-- The text of a name. -/
def find? (labels : Labels) (name : Text) : Option Text :=
  labels.entries.lookup name

/-- Writes labels one after another, so the last one of a name counts. -/
def insertAll (labels : Labels) (entries : List (Text × Text)) : Labels :=
  entries.foldl (fun labels (name, text) => labels.insert name text) labels

theorem lookup_entry (name text x : Text) (entries : List (Text × Text)) :
    ((name, text) :: entries).lookup x = if x = name then some text else entries.lookup x := by
  by_cases h : x = name
  · simp [h]
  · have : (x == name) = false := by simpa using h
    simp [List.lookup_cons, h, this]

theorem lookup_insertEntry (name text x : Text) (entries : List (Text × Text)) :
    (insertEntry name text entries).lookup x =
      if x = name then some text else entries.lookup x := by
  induction entries with
  | nil => rw [insertEntry, lookup_entry]
  | cons e entries ih =>
    rcases e with ⟨other, old⟩
    unfold insertEntry
    split
    · rw [lookup_entry]
    · split
      · next heq =>
        subst heq
        rw [lookup_entry, lookup_entry]
        split <;> rfl
      · next hne =>
        rw [lookup_entry, lookup_entry, ih]
        by_cases h : x = other
        · subst h
          simp [Ne.symm hne]
        · simp [h]

/-- Writing a label changes that label and no other. -/
theorem find?_insert (labels : Labels) (name text x : Text) :
    (labels.insert name text).find? x = if x = name then some text else labels.find? x :=
  lookup_insertEntry name text x labels.entries

end Labels

end ServerTelemetry
