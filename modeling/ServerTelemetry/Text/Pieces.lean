import ServerTelemetry.Text.Blank

/-!
# Cutting text at a separator

`pieces` cuts at every occurrence of a character and always yields at least one piece; joining the
pieces with the separator gives the text back. `cut` and `cutLast` cut once, at the first and at the
last occurrence. `items` is the reading of a comma list: pieces are trimmed and empty ones dropped.
-/

namespace ServerTelemetry.Text

/-- The pieces between the occurrences of `sep`. -/
def pieces (sep : Char) : Text → List Text
  | [] => [[]]
  | c :: s =>
    if c = sep then [] :: pieces sep s
    else
      match pieces sep s with
      | [] => [[c]]
      | p :: ps => (c :: p) :: ps

/-- The pieces, without a last piece that is empty. -/
def piecesTerminated (sep : Char) (s : Text) : List Text :=
  let ps := pieces sep s
  if ps.getLast? == some [] then ps.dropLast else ps

/-- What stands before the first occurrence of `sep`. -/
def first (sep : Char) (s : Text) : Text :=
  s.takeWhile (· != sep)

/-- The text before and after the first occurrence of `sep`. -/
def cut (sep : Char) : Text → Option (Text × Text)
  | [] => none
  | c :: s =>
    if c = sep then some ([], s)
    else (cut sep s).map fun (before, after) => (c :: before, after)

/-- The text before and after the last occurrence of `sep`. -/
def cutLast (sep : Char) : Text → Option (Text × Text)
  | [] => none
  | c :: s =>
    match cutLast sep s with
    | some (before, after) => some (c :: before, after)
    | none => if c = sep then some ([], s) else none

/-- The text joined from parts with `sep` between them. -/
def join (sep : Text) : List Text → Text
  | [] => []
  | [s] => s
  | s :: t :: rest => s ++ sep ++ join sep (t :: rest)

/-- The entries of a comma list: trimmed, the empty ones dropped. -/
def items (s : Text) : List Text :=
  ((pieces ',' s).map trim).filter (! ·.isEmpty)

@[simp] theorem pieces_nil (sep : Char) : pieces sep [] = [[]] := rfl

theorem pieces_ne_nil (sep : Char) (s : Text) : pieces sep s ≠ [] := by
  cases s with
  | nil => simp
  | cons c s => by_cases h : c = sep <;> cases hp : pieces sep s <;> simp [pieces, h, hp]

/-- Joining the pieces with the separator gives the text back. -/
theorem join_pieces (sep : Char) (s : Text) : join [sep] (pieces sep s) = s := by
  induction s with
  | nil => rfl
  | cons c s ih =>
    cases hp : pieces sep s with
    | nil => exact absurd hp (pieces_ne_nil sep s)
    | cons p ps =>
      rw [hp] at ih
      by_cases h : c = sep <;> cases ps <;> simp_all [pieces, join]

end ServerTelemetry.Text
