import ServerTelemetry.Duration.Basic

/-!
# Reading durations

A duration is written as counts with their units, `1h 30m` or `1h30m`. A count may have decimals as
long as the amount comes out even: in nanoseconds up to the minute, in seconds above it. Blanks are
skipped before and inside a count; a blank after a unit ends it, and so does the next digit.

The text is read once, left to right. `Stage` is where the reader stands, and every amount is added
to the total as soon as its unit is complete.
-/

namespace ServerTelemetry.Duration

/-- A count as written: its whole part and, after a decimal point, a numerator over a power of
ten. -/
structure Count where
  /-- The part before the decimal point. -/
  whole : Nat
  fraction : Option (Nat × Nat) := none
  deriving DecidableEq, Repr

/-- The number, if it has at most 64 bits, as all counts and amounts do. -/
def bounded? (n : Nat) : Option Nat :=
  if n < UInt64.size then some n else none

/-- Adds a number of nanoseconds to a total. -/
def addNanos? (total : Duration) (n : Nat) : Option Duration := do
  let _ ← bounded? (total.nanos % DurationUnit.second.nanos + n)
  ofNanos? (total.nanos + n)

/-- Adds a number of seconds to a total. -/
def addSeconds? (total : Duration) (n : Nat) : Option Duration :=
  ofNanos? (total.nanos + n * DurationUnit.second.nanos)

/-- Adds so many whole units to a total. -/
def addWhole? (total : Duration) (n : Nat) (unit : DurationUnit) : Option Duration :=
  if unit.nanos < DurationUnit.second.nanos then (bounded? (n * unit.nanos)).bind (addNanos? total)
  else (bounded? (n * (unit.nanos / DurationUnit.second.nanos))).bind (addSeconds? total)

/-- The quotient, if the division leaves nothing over. -/
def exactly? (n d : Nat) : Option Nat :=
  if n % d = 0 then some (n / d) else none

/-- Adds a fraction of a unit to a total. A nanosecond is not divided. -/
def addFraction? (total : Duration) (fraction : Nat × Nat) (unit : DurationUnit) :
    Option Duration :=
  let (num, den) := fraction
  match unit with
  | .nanosecond => none
  | .microsecond | .millisecond | .second | .minute => do
    addNanos? total (← exactly? (← bounded? (num * unit.nanos)) den)
  | .hour | .day | .week | .month | .year => do
    addSeconds? total (← exactly? (← bounded? (num * (unit.nanos / DurationUnit.second.nanos))) den)

/-- Adds a count of units to a total. -/
def addCount? (total : Duration) (count : Count) (unit : DurationUnit) : Option Duration := do
  let total ← addWhole? total count.whole unit
  match count.fraction with
  | some fraction => addFraction? total fraction unit
  | none => return total

/-- Where the reader stands. -/
inductive Stage where
  /-- Before a count, which must follow unless one came before. -/
  | lead (total : Option Duration)
  | whole (total : Duration) (n : Nat)
  /-- After the decimal point of a count. -/
  | fraction (total : Duration) (n num den : Nat)
  /-- In a unit, whose letters come last first. -/
  | unit (total : Duration) (count : Count) (letters : Text)
  deriving DecidableEq, Repr

/-- The value of a decimal digit. -/
def digit? (c : Char) : Option Nat :=
  if c.isDigit then some (c.toNat - '0'.toNat) else none

/-- The letters of units. -/
def isUnitChar (c : Char) : Bool :=
  c.isAlpha || c == 'µ'

/-- Adds what a complete unit stands for. -/
def closeUnit? (total : Duration) (count : Count) (letters : Text) : Option Duration := do
  addCount? total count (← DurationUnit.ofName? letters.reverse)

/-- Reads one character. -/
def Stage.step : Stage → Char → Option Stage
  | lead total, c =>
    match digit? c with
    | some d => some (whole (total.getD zero) d)
    | none => if Text.isBlank c then some (lead total) else none
  | whole total n, c =>
    match digit? c with
    | some d => (bounded? (n * 10 + d)).map (whole total)
    | none =>
      if Text.isBlank c then some (whole total n)
      else if isUnitChar c then some (unit total ⟨n, none⟩ [c])
      else if c = '.' then some (fraction total n 0 1)
      else none
  | fraction total n num den, c =>
    match digit? c with
    | some d => (bounded? (den * 10)).map (fraction total n (num * 10 + d))
    | none =>
      if Text.isBlank c then some (fraction total n num den)
      else if isUnitChar c ∧ den ≠ 1 then some (unit total ⟨n, some (num, den)⟩ [c])
      else none
  | unit total count letters, c =>
    match digit? c with
    | some d => (closeUnit? total count letters).map fun total => whole total d
    | none =>
      if Text.isBlank c then (closeUnit? total count letters).map fun total => lead (some total)
      else if isUnitChar c then some (unit total count (c :: letters))
      else none

/-- What has been read when the text ends here. -/
def Stage.finish : Stage → Option Duration
  | lead total => total
  | unit total count letters => closeUnit? total count letters
  | _ => none

/-- Reads a duration; a lone `0` is one too. -/
def read (s : Text) : Option Duration :=
  if s = ['0'] then some zero
  else (s.foldlM Stage.step (.lead none)).bind Stage.finish

end ServerTelemetry.Duration
