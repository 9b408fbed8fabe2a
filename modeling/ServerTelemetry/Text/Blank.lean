/-!
# Text and its blanks

Text is the list of its characters, so that every rule on it is a recursion on a list. `isBlank` is
the Unicode property `White_Space`; `trim` removes blanks at both ends and nothing inside. A trimmed
text has no blank at either end, and trimming it again changes nothing.
-/

namespace ServerTelemetry

/-- Text, as the list of its characters. -/
abbrev Text := List Char

namespace Text

/-- The characters with the Unicode property `White_Space`. -/
def isBlank (c : Char) : Bool :=
  let n := c.toNat
  (9 ≤ n && n ≤ 13) || n == 0x20 || n == 0x85 || n == 0xA0 || n == 0x1680
    || (0x2000 ≤ n && n ≤ 0x200A) || n == 0x2028 || n == 0x2029 || n == 0x202F || n == 0x205F
    || n == 0x3000

/-- Drops the longest tail whose characters all satisfy `p`. -/
def dropWhileEnd (p : Char → Bool) (s : Text) : Text :=
  (s.reverse.dropWhile p).reverse

/-- Drops the characters satisfying `p` at both ends. -/
def strip (p : Char → Bool) (s : Text) : Text :=
  dropWhileEnd p (s.dropWhile p)

/-- Drops the blanks at both ends. -/
def trim (s : Text) : Text :=
  strip isBlank s

/-- Drops the double quotes at both ends, however many there are. -/
def unquote (s : Text) : Text :=
  strip (· == '"') s

/-- Text of blanks only, the empty text included. -/
def blank (s : Text) : Bool :=
  s.all isBlank

/-- The text itself, unless it is empty. -/
def nonEmpty? (s : Text) : Option Text :=
  if s.isEmpty then none else some s

@[simp] theorem nonEmpty?_nil : nonEmpty? [] = none := rfl

@[simp] theorem nonEmpty?_cons (c : Char) (s : Text) : nonEmpty? (c :: s) = some (c :: s) := rfl

/-- `nonEmpty?` answers with its argument, exactly when that is not empty. -/
theorem nonEmpty?_eq_some_iff {s t : Text} : nonEmpty? s = some t ↔ s = t ∧ t ≠ [] := by
  cases s <;> simp [nonEmpty?]
  rintro rfl
  simp

@[simp] theorem dropWhileEnd_nil (p : Char → Bool) : dropWhileEnd p [] = [] := rfl

/-- The last character alone decides whether anything is dropped. -/
theorem dropWhileEnd_concat (p : Char → Bool) (s : Text) (c : Char) :
    dropWhileEnd p (s ++ [c]) = if p c then dropWhileEnd p s else s ++ [c] := by
  by_cases h : p c <;> simp [dropWhileEnd, h]

@[simp] theorem trim_nil : trim [] = [] := rfl

end Text

end ServerTelemetry
