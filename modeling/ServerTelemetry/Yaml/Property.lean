import ServerTelemetry.Yaml.Scalar
import ServerTelemetry.Yaml.Token

/-!
# Names, tags and directives

What may stand before a node, and the lines that may stand before a document. A percent sign in a
tag begins an escaped octet. One octet stands for the character with its number; several octets
stand for the character whose number they make up when written one after another.
-/

namespace ServerTelemetry.Yaml

/-- The name after an ampersand or an asterisk. -/
def readName (s : Source) : Option (Text × Source) :=
  let name := Source.leading isNameChar s
  let rest := Source.without isNameChar s
  let c := Source.char rest
  if name ≠ [] ∧ (isGap c || "?:,]\x7d%@\x60".toList.contains c) then some (name, rest) else none

/-- The characters of a tag that are not part of names. -/
def isTagMark (c : Char) : Bool :=
  ";/?:@&=+$,.!~*'()[]".toList.contains c

/-- The number of octets announced by the first one. -/
def octetCount? (octet : Nat) : Option Nat :=
  if octet < 0x80 then some 1
  else if octet < 0xC0 then none
  else if octet < 0xE0 then some 2
  else if octet < 0xF0 then some 3
  else if octet < 0xF8 then some 4
  else none

/-- Where the reader of a tag stands. -/
inductive TagState where
  | plain
  /-- Before the percent sign of an octet, with so many more to come after it. -/
  | percent (more value : Nat)
  /-- Before the first digit of an octet, which is the first of its character where no count is
  known. -/
  | high (more : Option Nat) (value : Nat)
  /-- Before the second digit of an octet. -/
  | low (more : Option Nat) (value digit : Nat)
  deriving DecidableEq, Repr

/-- What follows the handle of a tag. -/
def readTagSuffix : TagState → Source → Option (Text × Source)
  | .plain, [] => some ([], [])
  | _, [] => none
  | .plain, p :: rest =>
    if p.char = '%' then readTagSuffix (.high none 0) rest
    else if isNameChar p.char || isTagMark p.char then
      (readTagSuffix .plain rest).map fun (s, rest) => (p.char :: s, rest)
    else some ([], p :: rest)
  | .percent more value, p :: rest =>
    if p.char = '%' then readTagSuffix (.high (some more) value) rest else none
  | .high more value, p :: rest =>
    (Text.digitValue? p.char).bind fun digit => readTagSuffix (.low more value digit) rest
  | .low more value digit, p :: rest => do
    let octet := digit * 16 + (← Text.digitValue? p.char)
    let more ← match more with
      | none => (octetCount? octet).map (· - 1)
      | some more => if 0x80 ≤ octet ∧ octet < 0xC0 then some more else none
    let value := value * 256 + octet
    match more with
    | 0 =>
      let c ← charOfCode? value
      let (s, rest) ← readTagSuffix .plain rest
      return (c :: s, rest)
    | more + 1 => readTagSuffix (.percent more value) rest

/-- The handle of a tag: an exclamation mark, a name, and perhaps another exclamation mark. -/
def readHandle (s : Source) : Option (Text × Source) :=
  if Source.char s ≠ '!' then none
  else
    let name := Source.leading isNameChar (s.drop 1)
    let rest := Source.without isNameChar (s.drop 1)
    if Source.char rest = '!' then some ('!' :: name ++ ['!'], rest.drop 1)
    else some ('!' :: name, rest)

/-- What follows a handle, of which at least one character must be there. -/
def readTagUri (s : Source) : Option (Text × Source) := do
  if ! (isNameChar (Source.char s) || isTagMark (Source.char s) || Source.char s == '%') then none
  readTagSuffix .plain s

/-- A tag in angle brackets. -/
def readVerbatimTag (s : Source) : Option (Tag × Source) := do
  let (suffix, rest) ← readTagUri (s.drop 2)
  if Source.char rest ≠ '>' then none
  return (⟨[], suffix⟩, rest.drop 1)

/-- A tag with a handle. A name that is not followed by an exclamation mark is no part of the
handle; the exclamation mark alone has no handle. -/
def readShorthandTag (s : Source) : Option (Tag × Source) := do
  let (handle, rest) ← readHandle s
  if 2 ≤ handle.length ∧ handle.getLast? = some '!' then
    let (suffix, rest) ← readTagUri rest
    return (⟨handle, suffix⟩, rest)
  else
    let (suffix, rest) ← readTagSuffix .plain rest
    let suffix := handle.drop 1 ++ suffix
    return (if suffix = [] then ⟨[], ['!']⟩ else ⟨['!'], suffix⟩, rest)

/-- A tag, which a blank must follow. -/
def readTag (s : Source) : Option (Tag × Source) := do
  let (tag, rest) ← if Source.second s = '<' then readVerbatimTag s else readShorthandTag s
  if ! isGap (Source.char rest) then none
  return (tag, rest)

/-- A part of a version number: one to nine digits. -/
def readVersionPart (s : Source) : Option Source :=
  let digits := Source.leading Char.isDigit s
  if digits ≠ [] ∧ digits.length ≤ 9 then some (Source.without Char.isDigit s) else none

/-- What stands after the name of a directive. Directives of unknown names say anything. -/
def readDirectiveValue (name : Text) (s : Source) : Option Source :=
  if name = "YAML".toList then do
    let s ← readVersionPart (Source.without isSpace s)
    if Source.char s ≠ '.' then none
    readVersionPart (s.drop 1)
  else if name = "TAG".toList then do
    let (handle, s) ← readHandle (Source.without isSpace s)
    if handle ≠ ['!'] ∧ ¬ (2 ≤ handle.length ∧ handle.getLast? = some '!') then none
    let (_, s) ← readTagUri (Source.without isSpace s)
    if ! isGap (Source.char s) then none
    return s
  else some (Source.without (! isLineEnd ·) s)

/-- A directive with the end of its line. -/
def readDirective (s : Source) : Option Source := do
  let s := s.drop 1
  let name := Source.leading isNameChar s
  let rest := Source.without isNameChar s
  if name = [] then none
  if ! isGap (Source.char rest) then none
  Source.nextLine? (← readDirectiveValue name rest)

end ServerTelemetry.Yaml
