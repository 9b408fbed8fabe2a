import ServerTelemetry.Text.Blank

/-!
# The characters of a document

The layout of a document means something, so every character is kept with its place. Two characters
that end a line together count as one line feed. A document ends at its first NUL, and one is put at
the end of a text that has none: a reader that does not look beyond a NUL always has a character to
look at.
-/

namespace ServerTelemetry.Yaml

/-- A character and where it stands. -/
structure Placed where
  char : Char
  line : Nat
  /-- The characters since the last line feed. -/
  column : Nat
  index : Nat
  deriving DecidableEq, Repr

/-- What remains to be read of a document. -/
abbrev Source := List Placed

namespace Source

/-- The character that ends a document. -/
def endChar : Char := '\x00'

/-- The characters of a text that begins at a place. -/
def ofTextAt (line column index : Nat) : Text → Source
  | [] => [⟨endChar, line, column, index⟩]
  | c :: s =>
    if c = endChar then [⟨endChar, line, column, index⟩]
    else if c = '\n' then ⟨'\n', line, column, index⟩ :: ofTextAt (line + 1) 0 (index + 1) s
    else
      match c, s with
      | '\r', '\n' :: s => ⟨'\n', line, column, index⟩ :: ofTextAt (line + 1) 0 (index + 2) s
      | c, s => ⟨c, line, column, index⟩ :: ofTextAt line (column + 1) (index + 1) s

/-- The characters of a document. -/
def ofText (s : Text) : Source :=
  ofTextAt 0 0 0 s

/-- The next character. -/
def char : Source → Char
  | p :: _ => p.char
  | [] => endChar

/-- The character after the next one. -/
def second (s : Source) : Char :=
  char (s.drop 1)

/-- The place of the next character. -/
def place : Source → Placed
  | p :: _ => p
  | [] => ⟨endChar, 0, 0, 0⟩

/-- The characters in front that satisfy a test. -/
def leading (p : Char → Bool) (s : Source) : Text :=
  (s.takeWhile fun placed => p placed.char).map (·.char)

/-- What follows the characters in front that satisfy a test. -/
def without (p : Char → Bool) (s : Source) : Source :=
  s.dropWhile fun placed => p placed.char

end Source

/-- A character that ends a line. -/
def isBreak (c : Char) : Bool :=
  c == '\n' || c == '\r'

/-- A blank inside a line. -/
def isSpace (c : Char) : Bool :=
  c == ' ' || c == '\t'

/-- A character that separates words, or the end of the document. -/
def isGap (c : Char) : Bool :=
  isSpace c || isBreak c || c == Source.endChar

/-- The end of a line or of the document. -/
def isLineEnd (c : Char) : Bool :=
  isBreak c || c == Source.endChar

/-- A character of a flow collection's own. -/
def isFlowIndicator (c : Char) : Bool :=
  c == ',' || c == '[' || c == ']' || c == '\x7b' || c == '\x7d'

/-- A character of names. -/
def isNameChar (c : Char) : Bool :=
  c.isAlphanum || c == '_' || c == '-'

namespace Source

/-- Whether three characters that bound a document stand at the start of a line. -/
def atBoundary (c : Char) (s : Source) : Bool :=
  (place s).column == 0 && (s.take 3).map (·.char) == [c, c, c] && isGap (char (s.drop 3))

/-- Whether a document begins or ends here by a mark of its own. -/
def atAnyBoundary (s : Source) : Bool :=
  atBoundary '-' s || atBoundary '.' s

/-- What follows a comment, if one begins here. -/
def withoutComment (s : Source) : Source :=
  if char s = '#' then without (! isLineEnd ·) s else s

/-- Goes to the next line when nothing but blanks and a comment is left on this one. -/
def nextLine? (s : Source) : Option Source :=
  let s := withoutComment (without isSpace s)
  if isBreak (char s) then some (s.drop 1)
  else if char s = endChar then some s
  else none

end Source

end ServerTelemetry.Yaml
