import ServerTelemetry.Number.Decimal
import ServerTelemetry.Text.Pieces
import ServerTelemetry.Text.Quoted
import ServerTelemetry.Yaml.Node

/-!
# What nodes hold

A plain scalar without a tag may hold a truth value, a number or nothing; any other scalar holds
its text, unless its tag says what to read it as. Integers in base ten have up to 128 bits, those
with a mark for base 16, 8 or 2 have up to 64; digits after a leading zero are text. What is not an
integer may be a number with decimals.
-/

namespace ServerTelemetry.Yaml

open Text

/-- What a node holds. -/
inductive Content where
  | nothing
  | flag (value : Bool)
  | integer (value : Int)
  | decimal (value : Decimal)
  | text (value : Text)
  | sequence
  | mapping
  deriving DecidableEq, Repr

/-- Integers without a sign stay below this number, as they have 128 bits. -/
def integerBound : Nat :=
  UInt64.size * UInt64.size

/-- The least integer of 64 bits. -/
def leastWord : Int :=
  -9223372036854775808

/-- A text between grave accents. -/
def ticked (s : Text) : Text :=
  '\x60' :: s ++ ['\x60']

/-- An integer in base ten. -/
def writeInt (n : Int) : Text :=
  if n < 0 then '-' :: Text.decimal n.natAbs else Text.decimal n.natAbs

/-- The words for what a node holds. -/
def Content.describe : Content → Text
  | nothing => "unit value".toList
  | flag value => "boolean ".toList ++ ticked (if value then "true".toList else "false".toList)
  | integer value =>
    "integer ".toList ++ ticked (writeInt value)
      ++ (if (UInt64.size : Int) ≤ value then " as u128".toList
        else if value < leastWord then " as i128".toList else [])
  | decimal value => "floating point ".toList ++ ticked value.write
  | text value => "string ".toList ++ quote value
  | sequence => "sequence".toList
  | mapping => "map".toList

/-! ## Numbers -/

/-- What follows some text, if that is in front. -/
def after? (front s : Text) : Option Text :=
  if front.isPrefixOf s then some (s.drop front.length) else none

/-- The digits of a negative integer, in a base. -/
def readNegative (base : Nat) (digits : Text) : Option Int := do
  if digits.isEmpty then none
  let n ← readDigits base 0 digits
  if n ≤ integerBound / 2 then some (-(n : Int)) else none

/-- An integer of 64 bits with a mark for its base. -/
def readMarked (s : Text) (mark : Text) (base : Nat) : Option Int :=
  ((after? mark s).or (after? ('+' :: mark) s)).bind
      (fun digits => (readNat base UInt64.size digits).map Int.ofNat)
    |>.or (((after? ('-' :: mark) s).bind (readNegative base)).filter (leastWord ≤ ·))

/-- Whether digits follow a leading zero. -/
def hasLeadingZero (s : Text) : Bool :=
  let digits := match s with
    | '+' :: rest | '-' :: rest => rest
    | _ => s
  match digits with
  | '0' :: rest => ! rest.isEmpty && rest.all Char.isDigit
  | _ => false

/-- An integer. -/
def readInteger (s : Text) : Option Int :=
  (readMarked s "0x".toList 16).or <| (readMarked s "0o".toList 8).or <|
    (readMarked s "0b".toList 2).or <|
      if hasLeadingZero s then none
      else match s with
        | '-' :: digits => readNegative 10 digits
        | _ => (readNat 10 integerBound s).map Int.ofNat

/-- A number with decimals. What is not finite has words of its own, with a point in front. -/
def readDecimal (s : Text) : Option Decimal :=
  let oneOf (words : List String) (s : Text) := (words.map String.toList).contains s
  if oneOf [".inf", ".Inf", ".INF"] (s.dropWhile (· = '+')) then some (.infinite false)
  else if oneOf ["-.inf", "-.Inf", "-.INF"] s then some (.infinite true)
  else if oneOf [".nan", ".NaN", ".NAN"] s then some .undefined
  else (Decimal.read? s).filter Decimal.isFinite

/-! ## Scalars -/

/-- What a plain scalar without a tag holds. -/
def Content.ofPlain (s : Text) : Content :=
  if s = ['~'] ∨ s = "null".toList then nothing
  else if s = "true".toList then flag true
  else if s = "false".toList then flag false
  else
    match readInteger s with
    | some n => integer n
    | none =>
      if hasLeadingZero s then text s
      else
        match readDecimal s with
        | some value => decimal value
        | none => text s

/-- What a scalar holds by its tag, or what it should have been. -/
def Content.ofTagged (tag : Tag) (s : Text) : Except Text Content :=
  let read (expected : String) (content : Option Content) : Except Text Content :=
    match content with
    | some content => .ok content
    | none => .error expected.toList
  if tag.handle ≠ "!!".toList then .ok (text s)
  else if tag.suffix = "bool".toList then
    read "a boolean" (if s = "true".toList then some (flag true)
      else if s = "false".toList then some (flag false) else none)
  else if tag.suffix = "int".toList then
    read "an integer" ((match s with
      | '-' :: digits => (readNegative 10 digits).filter (leastWord ≤ ·)
      | _ => (readNat 10 (UInt64.size / 2) s).map Int.ofNat).map integer)
  else if tag.suffix = "float".toList then read "a float" ((Decimal.read? s).map decimal)
  else if tag.suffix = "null".toList then
    read "null" (if s = ['~'] ∨ s = "null".toList then some nothing else none)
  else .ok (text s)

/-- What a scalar holds, or what it should have been. -/
def Content.ofScalar (s : Text) (plain : Bool) (tag : Option Tag) : Except Text Content :=
  match tag with
  | some tag => ofTagged tag s
  | none => .ok (if plain then ofPlain s else text s)

end ServerTelemetry.Yaml
