import ServerTelemetry.Text.Number

/-!
# Binary floating point numbers as text

A number with decimals is kept as the nearest number with 53 binary digits, and shown with the
fewest decimal digits that have it as their nearest. Both steps are exact arithmetic on natural
numbers: `nearest?` rounds a quotient, ties to an even mantissa, and `shortest` looks for a point
of a decimal grid between the two numbers half way to the neighbours, on the coarsest grid that has
one.
-/

namespace ServerTelemetry

/-- A number of at least zero: a mantissa times a power of two. -/
structure Binary64 where
  mantissa : Nat
  /-- The power of two, at least `-1074`. -/
  exponent : Int
  deriving DecidableEq, Repr

namespace Binary64

/-- The least mantissa of 53 binary digits. -/
def leastFull : Nat := 4503599627370496

/-- The least power of two. -/
def leastExponent : Int := -1074

/-- The greatest power of two. -/
def greatestExponent : Int := 971

/-- Zero. -/
def zero : Binary64 := ⟨0, leastExponent⟩

/-- A quotient times a power of a base, as a quotient. -/
def scaled (base num den : Nat) (exponent : Int) : Nat × Nat :=
  if 0 ≤ exponent then (num * Nat.pow base exponent.toNat, den)
  else (num, den * Nat.pow base (-exponent).toNat)

/-- The integer nearest to a quotient; a tie goes to the even one. -/
def roundHalfEven (num den : Nat) : Nat :=
  let n := num / den
  let twice := 2 * (num % den)
  if twice < den ∨ (twice = den ∧ n % 2 = 0) then n else n + 1

/-- The number nearest to a quotient, unless it is too great. -/
def nearest? (num den : Nat) : Option Binary64 :=
  if num = 0 then some zero
  else
    let about : Int := (Nat.log2 num : Int) - Nat.log2 den - 52
    let (n, d) := scaled 2 num den (-about)
    let exponent := max leastExponent (if n < leastFull * d then about - 1 else about)
    let (n, d) := scaled 2 num den (-exponent)
    let mantissa := roundHalfEven n d
    let rounded : Binary64 :=
      if mantissa = 2 * leastFull then ⟨leastFull, exponent + 1⟩ else ⟨mantissa, exponent⟩
    if greatestExponent < rounded.exponent then none else some rounded

/-- The number nearest to a decimal number, unless it is too great. -/
def ofDecimal? (digits : Nat) (exponent : Int) : Option Binary64 :=
  let magnitude : Int := (Text.decimal digits).length + exponent
  if digits = 0 ∨ magnitude < -330 then some zero
  else if 310 < magnitude then none
  else
    let (num, den) := scaled 10 digits 1 exponent
    nearest? num den

/-- The greatest power of ten that is not above a quotient other than zero. -/
def decimalExponent (num den : Nat) : Int :=
  if den ≤ num then (Text.decimal (num / den)).length - 1
  else -((Text.decimal ((den + num - 1) / num - 1)).length : Int)

/-- Four times the number, and the numbers half way to its neighbours, all of them four times over.
-/
def bounds (b : Binary64) : Nat × Nat × Nat :=
  let value := 4 * b.mantissa
  let low := if b.mantissa = leastFull ∧ leastExponent < b.exponent then value - 1 else value - 2
  (low, value, value + 2)

/-- The point of the grid of a power of ten that lies nearest among those with the number as their
nearest, if there is one. -/
def gridPoint? (b : Binary64) (grid : Int) : Option Nat :=
  let (low, value, high) := b.bounds
  let at_ (n : Nat) := scaled 2 n 4 b.exponent
  let (num, den) := let (n, d) := at_ value; scaled 10 n d (-grid)
  let inside (point : Nat) : Bool :=
    let (n, d) := scaled 10 point 1 grid
    let (lowNum, lowDen) := at_ low
    let (highNum, highDen) := at_ high
    if b.mantissa % 2 = 0 then lowNum * d ≤ n * lowDen && n * highDen ≤ highNum * d
    else lowNum * d < n * lowDen && n * highDen < highNum * d
  let below := num / den
  let above := below + 1
  match inside below, inside above with
  | true, true => some (roundHalfEven num den)
  | true, false => some below
  | false, true => some above
  | false, false => none

/-- The fewest decimal digits that have the number as their nearest, with their power of ten. -/
def shortest (b : Binary64) : Nat × Int :=
  if b.mantissa = 0 then (0, 0)
  else
    let (num, den) := scaled 2 b.mantissa 1 b.exponent
    let top := decimalExponent num den
    let grids := (List.range 17).map fun n : Nat => top - (n : Int)
    (grids.findSome? fun grid => (b.gridPoint? grid).map fun point => (point, grid)).getD (0, 0)

/-- The number with its decimals written out, at least one of them. -/
def write (b : Binary64) : Text :=
  let (digits, exponent) := b.shortest
  let digits := Text.decimal digits
  if 0 ≤ exponent then digits ++ List.replicate exponent.toNat '0' ++ ".0".toList
  else
    let places := (-exponent).toNat
    let digits := Text.zeroPadded (places + 1) digits
    digits.take (digits.length - places) ++ '.' :: digits.drop (digits.length - places)

end Binary64

end ServerTelemetry
