import ServerTelemetry.Log.Event
import ServerTelemetry.Text.Alphanumeric
import ServerTelemetry.Text.Letters
import ServerTelemetry.Text.Number
import ServerTelemetry.Text.Pieces

/-!
# Log filters

A filter is a list of directives. A directive sets how much is let through, for all events or for
those it is about: events of the modules whose names begin with its target, with a value of a given
name, or inside a span. A filter without directives lets through errors alone; one with directives
lets through no event that none of them is about.

Of the directives about an event the one with the longest target decides, of those with one target
the one that asks for a value, and of several of these the last. No event of this program is inside
a span that a directive could name, so a directive that names one, or asks what a value is, decides
nothing.
-/

namespace ServerTelemetry

open Text

/-- A directive of a log filter. -/
structure LogDirective where
  /-- The beginning of the names of the modules it is about, if not all. -/
  target : Option Text := none
  /-- The name of a span that the event has to be in. -/
  span : Option Text := none
  /-- The name of a value that the event has to have, with what the value has to be. -/
  value : Option (Text × Option Text) := none
  /-- The rank up to which events are let through. -/
  rank : Nat := LogLevel.trace.rank
  deriving DecidableEq, Repr

/-- A log filter. -/
abbrev LogFilter := List LogDirective

/-- Why a text is no log filter. -/
inductive FilterError where
  | malformed
  /-- A directive does not say how much is let through. -/
  | level
  deriving DecidableEq, Repr

/-- The wording of the error. -/
def FilterError.message : FilterError → Text
  | .malformed => "invalid filter directive".toList
  | .level => "error parsing level filter: expected one of \"off\", \"error\", \"warn\",".toList
      ++ " \"info\", \"debug\", \"trace\", or a number 0-5".toList

namespace LogDirective

/-! ## Reading -/

/-- The rank of a word or number for how much is let through. -/
def rankOf? (word : Text) : Option Nat :=
  let words := ["off", "error", "warn", "info", "debug", "trace"].map String.toList
  (words.findIdx? (sameLetters word)).or ((readUInt64 word).filter (· ≤ 5))

/-- The characters a target begins with. -/
def isTargetStart (c : Char) : Bool :=
  c == '-' || c == ':' || c == '_' || isWordChar c

/-- The characters that end a target. -/
def isTargetEnd (c : Char) : Bool :=
  c == '=' || c == '['

/-- What follows the equals sign: how much is let through, everything if nothing is said. -/
def withRank (d : LogDirective) (word : Text) : Except FilterError LogDirective :=
  if word.isEmpty then .ok d
  else
    match rankOf? word with
    | some rank => .ok { d with rank := rank }
    | none => .error .level

/-- The blanks around a directive. -/
structure Margins where
  leading : Text
  trailing : Text
  deriving DecidableEq, Repr

/-- What follows the brackets: nothing, or an equals sign. -/
def afterBrackets (m : Margins) (d : LogDirective) : Text → Except FilterError LogDirective
  | [] => .ok d
  | '=' :: word => d.withRank (m.leading ++ word ++ m.trailing)
  | _ => .error .malformed

/-- The name of a value, with what follows an equals sign. -/
def readValue (s : Text) : Text × Option Text :=
  match pieces '=' s with
  | name :: value :: _ => (name, some value)
  | _ => (s, none)

/-- What follows the opening bracket: the name of a span, and a value in braces, each of which may
be missing. -/
def readBrackets (m : Margins) (d : LogDirective) (s : Text) : Except FilterError LogDirective :=
  let (name, rest) := s.span fun c => c != ']' && c != '\x7b'
  match rest with
  | ']' :: rest => { d with span := some (m.leading ++ name) }.afterBrackets m rest
  | '\x7b' :: rest =>
    match cut '\x7d' rest with
    | some (value, ']' :: rest) =>
      if value.isEmpty then .error .malformed
      else
        { d with
          span := (nonEmpty? name).map (m.leading ++ ·)
          value := some (readValue (m.leading ++ value)) }.afterBrackets m rest
    | _ => .error .malformed
  | _ => .error .malformed

/-- A directive without the blanks around it: a word for how much is let through, or a target, a
span and a value, with an equals sign before the word for how much. Blanks in front count in front
of each part, blanks behind at the end of the last one unless that is a bracket. -/
def readWithin (m : Margins) (s : Text) : Except FilterError LogDirective :=
  let (target, rest) := s.span (! isTargetEnd ·)
  match s, rest with
  | [], _ => .error .malformed
  | '[' :: brackets, _ => readBrackets m {} brackets
  | c :: _, rest =>
    if ! isTargetStart c then .error .malformed
    else
      match rest with
      | [] =>
        let word := m.leading ++ s ++ m.trailing
        .ok (((rankOf? word).map fun rank => { rank := rank }).getD { target := some word })
      | '[' :: brackets => readBrackets m { target := some (m.leading ++ target) } brackets
      | _ :: word =>
        withRank { target := some (m.leading ++ target) } (m.leading ++ word ++ m.trailing)

/-- A directive with the blanks around it. -/
def read (piece : Text) : Except FilterError LogDirective :=
  let leading := piece.takeWhile isBlank
  let s := trim piece
  readWithin ⟨leading, piece.drop (leading.length + s.length)⟩ s

/-! ## Deciding -/

/-- Whether the directive is about an event. -/
def concerns (d : LogDirective) (e : LogEvent) : Bool :=
  d.span.isNone
    && d.target.all (·.isPrefixOf e.target)
    && d.value.all fun (name, value) =>
      value.isNone && ("message".toList :: e.fields.map Prod.fst).contains name

/-- The length of the target, from one on; nothing for no target. -/
def targetRank (d : LogDirective) : Nat :=
  (d.target.map (·.length + 1)).getD 0

/-- Whether a directive about an event is at least as specific as another one about it. -/
def atLeast (d other : LogDirective) : Bool :=
  let name (d : LogDirective) : Text := (d.value.map Prod.fst).getD []
  if d.targetRank = other.targetRank then ! decide (name d < name other)
  else other.targetRank < d.targetRank

end LogDirective

namespace LogFilter

/-- The directives of a list with commas between them. -/
def read (s : Text) : Except FilterError LogFilter :=
  ((pieces ',' s).filter (! ·.isEmpty)).mapM LogDirective.read

/-- The better of two directives about one event: the more specific one, else the later. -/
def better (best : Option LogDirective) (d : LogDirective) : Option LogDirective :=
  match best with
  | some b => if d.atLeast b then some d else some b
  | none => some d

/-- The directive that decides about an event. -/
def directive? (f : LogFilter) (e : LogEvent) : Option LogDirective :=
  (f.filter (·.concerns e)).foldl better none

/-- Whether an event is let through. -/
def allows (f : LogFilter) (e : LogEvent) : Bool :=
  if f.isEmpty then e.level.rank ≤ LogLevel.error.rank
  else (f.directive? e).any fun d => e.level.rank ≤ d.rank

end LogFilter

end ServerTelemetry
