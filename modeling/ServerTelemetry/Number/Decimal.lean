import ServerTelemetry.Number.Binary64
import ServerTelemetry.Text.Letters

/-!
# Numbers with decimals as text

A number with decimals has a sign, digits with at most one point among them, and a power of ten
after the letter `e`. The words `inf`, `infinity` and `nan` stand for what is no such number. A
number too great for 53 binary digits is infinite.
-/

namespace ServerTelemetry

open Text

/-- A number with decimals, or what stands for one. -/
inductive Decimal where
  | finite (negative : Bool) (magnitude : Binary64)
  /-- More, or less, than any number. -/
  | infinite (negative : Bool)
  | undefined
  deriving DecidableEq, Repr

namespace Decimal

/-- Whether it is a number. -/
def isFinite : Decimal → Bool
  | finite .. => true
  | _ => false

/-- A sign in front of a text. -/
def signed (negative : Bool) (s : Text) : Text :=
  if negative then '-' :: s else s

/-- A number with its decimals written out, or the word for what is none. -/
def write : Decimal → Text
  | finite negative magnitude => signed negative magnitude.write
  | infinite negative => signed negative "inf".toList
  | undefined => "NaN".toList

/-- At least one digit and nothing else. -/
def readPower (digits : Text) : Option Nat :=
  if digits.isEmpty then none else readDigits 10 0 digits

/-- The power of ten after the letter that announces it. -/
def readExponent (s : Text) : Option Int :=
  match s with
  | [] => some 0
  | c :: rest =>
    if c ≠ 'e' ∧ c ≠ 'E' then none
    else
      match rest with
      | '-' :: digits => (readPower digits).map fun n => -(n : Int)
      | '+' :: digits => (readPower digits).map Int.ofNat
      | digits => (readPower digits).map Int.ofNat

/-- A number without a sign, as digits and a power of ten. -/
def readMagnitude (s : Text) : Option (Nat × Int) := do
  let (whole, s) := s.span Char.isDigit
  let (fraction, s) := match s with
    | '.' :: rest => rest.span Char.isDigit
    | _ => ([], s)
  if whole.isEmpty && fraction.isEmpty then none
  else
    let exponent ← readExponent s
    let digits ← readDigits 10 0 (whole ++ fraction)
    return (digits, exponent - fraction.length)

/-- A number, or a word for what is none in any case of its letters. -/
def read? (s : Text) : Option Decimal :=
  let (negative, s) := match s with
    | '-' :: rest => (true, rest)
    | '+' :: rest => (false, rest)
    | _ => (false, s)
  if sameLetters s "inf".toList || sameLetters s "infinity".toList then some (infinite negative)
  else if sameLetters s "nan".toList then some undefined
  else
    (readMagnitude s).map fun (digits, exponent) =>
      match Binary64.ofDecimal? digits exponent with
      | some magnitude => finite negative magnitude
      | none => infinite negative

end Decimal

end ServerTelemetry
