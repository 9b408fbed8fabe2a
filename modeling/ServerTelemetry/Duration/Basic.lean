import ServerTelemetry.Text.Number

/-!
# Durations

A duration is a number of nanoseconds whose whole seconds are a number of 64 bits. `write` takes it
apart into years, months, days and so on, the larger unit first, so that every count stays below the
next larger unit; `shortForm` shows it in one unit with decimals.
-/

namespace ServerTelemetry

/-- A duration, counted in nanoseconds. -/
structure Duration where
  nanos : Nat
  /-- The whole seconds are a number of 64 bits. -/
  nanos_lt : nanos < 18446744073709551616000000000 := by decide
  deriving DecidableEq, Repr

/-- The units durations are written in. A month is a twelfth of a year, a year has 365.25 days. -/
inductive DurationUnit where
  /-- A thousandth of a microsecond. -/
  | nanosecond
  /-- A thousandth of a millisecond. -/
  | microsecond
  | millisecond
  | second
  | minute
  | hour
  | day
  | week
  | month
  | year
  deriving DecidableEq, Repr

namespace DurationUnit

/-- All units, from the least to the greatest. -/
def all : List DurationUnit :=
  [nanosecond, microsecond, millisecond, second, minute, hour, day, week, month, year]

/-- The nanoseconds in a unit. -/
def nanos : DurationUnit → Nat
  | nanosecond => 1
  | microsecond => 1000
  | millisecond => 1000000
  | second => 1000000000
  | minute => 60 * 1000000000
  | hour => 3600 * 1000000000
  | day => 86400 * 1000000000
  | week => 604800 * 1000000000
  | month => 2630016 * 1000000000
  | year => 31557600 * 1000000000

/-- The spellings of a unit, in which case matters. -/
def names : DurationUnit → List Text
  | nanosecond => ["nanos".toList, "nsec".toList, "ns".toList]
  | microsecond => ["usec".toList, "us".toList, "µs".toList]
  | millisecond => ["millis".toList, "msec".toList, "ms".toList]
  | second => ["seconds".toList, "second".toList, "secs".toList, "sec".toList, "s".toList]
  | minute => ["minutes".toList, "minute".toList, "min".toList, "mins".toList, "m".toList]
  | hour => ["hours".toList, "hour".toList, "hrs".toList, "hr".toList, "h".toList]
  | day => ["days".toList, "day".toList, "d".toList]
  | week => ["weeks".toList, "week".toList, "wks".toList, "wk".toList, "w".toList]
  | month => ["months".toList, "month".toList, "M".toList]
  | year => ["years".toList, "year".toList, "yrs".toList, "yr".toList, "y".toList]

/-- The unit with a given spelling. -/
def ofName? (name : Text) : Option DurationUnit :=
  all.find? fun unit => unit.names.contains name

/-- The spelling of a unit after a count; the three long ones have a plural. -/
def written (unit : DurationUnit) (count : Nat) : Text :=
  let plural (name : String) := name.toList ++ if 1 < count then ['s'] else []
  match unit with
  | nanosecond => "ns".toList
  | microsecond => "us".toList
  | millisecond => "ms".toList
  | second => "s".toList
  | minute => "m".toList
  | hour => "h".toList
  | day => plural "day"
  | week => plural "week"
  | month => plural "month"
  | year => plural "year"

end DurationUnit

namespace Duration

/-- A duration of no time. -/
def zero : Duration := { nanos := 0 }

/-- The duration of so many nanoseconds, unless there are too many. -/
def ofNanos? (n : Nat) : Option Duration :=
  if h : n < 18446744073709551616000000000 then some ⟨n, h⟩ else none

/-- A number of milliseconds below `2 ^ 64`, larger ones wrapped. -/
def ofMillis (n : UInt64) : Duration where
  nanos := n.toNat * 1000000
  nanos_lt := by
    have := n.toNat_lt
    omega

/-- The units a duration is taken apart into, the greatest first. -/
def writtenUnits : List DurationUnit :=
  [.year, .month, .day, .hour, .minute, .second, .millisecond, .microsecond, .nanosecond]

/-- Takes nanoseconds apart into counts of units, each as large as the units before it allow. -/
def split : List DurationUnit → Nat → List (Nat × DurationUnit)
  | [], _ => []
  | unit :: units, n => (n / unit.nanos, unit) :: split units (n % unit.nanos)

/-- The nanoseconds in counts of units. -/
def total : List (Nat × DurationUnit) → Nat
  | [] => 0
  | (count, unit) :: counts => count * unit.nanos + total counts

/-- The counts other than zero that a duration is made up of. -/
def parts (d : Duration) : List (Nat × DurationUnit) :=
  (split writtenUnits d.nanos).filter (·.1 != 0)

/-- A count with its unit. -/
def writePart (count : Nat) (unit : DurationUnit) : Text :=
  Text.decimal count ++ unit.written count

/-- A duration as text: its parts with a space between them. -/
def write (d : Duration) : Text :=
  match d.parts with
  | [] => "0s".toList
  | (count, unit) :: parts =>
    writePart count unit ++ parts.flatMap fun (count, unit) => ' ' :: writePart count unit

/-- The digits after the decimal point of `n / 10 ^ width`, and the point, without zeros at the
end. -/
def decimals (width n : Nat) : Text :=
  match Text.dropWhileEnd (· == '0') (Text.zeroPadded width (Text.decimal n)) with
  | [] => []
  | digits => '.' :: digits

/-- A duration in the greatest of four units that it fills, with decimals. -/
def shortForm (d : Duration) : Text :=
  let inUnit (unit : DurationUnit) (places : Nat) (name : String) :=
    Text.decimal (d.nanos / unit.nanos) ++ decimals places (d.nanos % unit.nanos) ++ name.toList
  if DurationUnit.second.nanos ≤ d.nanos then inUnit .second 9 "s"
  else if DurationUnit.millisecond.nanos ≤ d.nanos then inUnit .millisecond 6 "ms"
  else if DurationUnit.microsecond.nanos ≤ d.nanos then inUnit .microsecond 3 "µs"
  else inUnit .nanosecond 0 "ns"

theorem nanos_injective : Function.Injective nanos := by
  rintro ⟨a, ha⟩ ⟨b, hb⟩ (rfl : a = b)
  rfl

/-- Putting the counts together again gives the number back, as the last unit is one. -/
theorem total_split (units : List DurationUnit) (n : Nat) :
    total (split (units ++ [.nanosecond]) n) = n := by
  induction units generalizing n with
  | nil => simp [split, total, DurationUnit.nanos]
  | cons unit units ih =>
    simp only [List.cons_append, split, total, ih]
    rw [Nat.mul_comm]
    exact Nat.div_add_mod n unit.nanos

end Duration

end ServerTelemetry
