import ServerTelemetry.Text.Blank

/-!
# Numbers as text

`decimal` writes a number in base ten, `hexadecimal` in base sixteen with a fixed width. `readNat`
reads a number in a base: an optional plus sign, then at least one digit and nothing else, and the
value below a given bound.
-/

namespace ServerTelemetry.Text

/-- The number in base ten, without leading zeros. -/
def decimal (n : Nat) : Text :=
  Nat.toDigits 10 n

/-- The number in base sixteen, filled up with zeros on the left to `width` digits. -/
def hexadecimal (width n : Nat) : Text :=
  let digits := Nat.toDigits 16 n
  List.replicate (width - digits.length) '0' ++ digits

/-- Fills up with zeros on the left to `width` characters. -/
def zeroPadded (width : Nat) (s : Text) : Text :=
  List.replicate (width - s.length) '0' ++ s

/-- The value of a digit in bases up to sixteen, letters in either case. -/
def digitValue? (c : Char) : Option Nat :=
  if '0' ≤ c ∧ c ≤ '9' then some (c.toNat - '0'.toNat)
  else if 'a' ≤ c ∧ c ≤ 'f' then some (c.toNat - 'a'.toNat + 10)
  else if 'A' ≤ c ∧ c ≤ 'F' then some (c.toNat - 'A'.toNat + 10)
  else none

/-- Reads digits on top of what has been read so far. -/
def readDigits (base : Nat) (value : Nat) : Text → Option Nat
  | [] => some value
  | c :: s =>
    match digitValue? c with
    | some d => if d < base then readDigits base (value * base + d) s else none
    | none => none

/-- An optional plus sign and at least one digit, with a value below `bound`. -/
def readNat (base bound : Nat) (s : Text) : Option Nat :=
  let digits := match s with
    | '+' :: rest => rest
    | _ => s
  if digits.isEmpty then none
  else (readDigits base 0 digits).filter (· < bound)

/-- A decimal number below `2 ^ 16`, such as a port. -/
def readUInt16 (s : Text) : Option UInt16 :=
  (readNat 10 UInt16.size s).map UInt16.ofNat

/-- A decimal number below `2 ^ 64`. -/
def readUInt64 (s : Text) : Option Nat :=
  readNat 10 UInt64.size s

end ServerTelemetry.Text
