import ServerTelemetry.Text.Blank

/-!
# Sorted texts

`sorted` puts texts in order and leaves each of them once. It keeps exactly the texts it is given.
-/

namespace ServerTelemetry.Text

/-- Puts a text in its place among sorted ones, unless it is there. -/
def insertSorted (s : Text) : List Text → List Text
  | [] => [s]
  | t :: ts =>
    if s < t then s :: t :: ts
    else if s = t then t :: ts
    else t :: insertSorted s ts

/-- The texts in order, each once. -/
def sorted (texts : List Text) : List Text :=
  texts.foldr insertSorted []

theorem mem_insertSorted {x s : Text} {ts : List Text} :
    x ∈ insertSorted s ts ↔ x = s ∨ x ∈ ts := by
  induction ts with
  | nil => simp [insertSorted]
  | cons t ts ih =>
    unfold insertSorted
    split
    · simp
    · split
      · next h => simp [h]
      · simp only [List.mem_cons, ih]
        exact ⟨fun h => by rcases h with h | h | h <;> simp [h],
          fun h => by rcases h with h | h | h <;> simp [h]⟩

/-- Sorting neither loses a text nor adds one. -/
@[simp] theorem mem_sorted {x : Text} {texts : List Text} : x ∈ sorted texts ↔ x ∈ texts := by
  induction texts with
  | nil => simp [sorted]
  | cons t texts ih =>
    have h : sorted (t :: texts) = insertSorted t (sorted texts) := rfl
    rw [h, mem_insertSorted, ih, List.mem_cons]

end ServerTelemetry.Text
