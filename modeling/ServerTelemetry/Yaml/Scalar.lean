import ServerTelemetry.Text.Number
import ServerTelemetry.Yaml.Gap

/-!
# Scalars

The three styles of scalars: plain ones, which end where something else begins; quoted ones, in
which double quotes allow escapes; and block scalars, whose lines are told by their indentation.
Each reader answers with the text of the scalar and with what follows it, or not at all if the
scalar is malformed.
-/

namespace ServerTelemetry.Yaml

/-! ## Plain scalars -/

/-- Whether a plain scalar that goes on to a word after a gap ends here instead. -/
def endsAfterGap (inFlow : Bool) (least : Nat) (s : Source) : Bool :=
  (! inFlow && (Source.place s).column < least) || Source.atAnyBoundary s || Source.char s == '#'

/-- Whether the next character is no part of a plain scalar. -/
def endsPlain (inFlow : Bool) (s : Source) : Bool :=
  let c := Source.char s
  (c == ':' && (isGap (Source.second s) || (inFlow && isFlowIndicator (Source.second s))))
    || (inFlow && isFlowIndicator c)

/-- Reads a plain scalar whose lines must not begin left of the column `least`. Answers also whether
a line break follows it. -/
def readPlain (inFlow : Bool) (least : Nat) : Gap → Source → Option (Text × Bool × Source)
  | gap, [] => some ([], gap.broken, [])
  | gap, p :: rest =>
    if isSpace p.char then
      if gap.broken && p.char == '\t' && p.column < least then none
      else readPlain inFlow least (gap.addSpace p.char) rest
    else if isBreak p.char then readPlain inFlow least gap.addBreak rest
    else if p.char = Source.endChar || (gap != .none && endsAfterGap inFlow least (p :: rest))
        || endsPlain inFlow (p :: rest) then
      some ([], gap.broken, p :: rest)
    else
      (readPlain inFlow least .none rest).map fun (s, more) => (gap.text ++ p.char :: s, more)

/-! ## Quoted scalars -/

/-- What a character stands for after a backslash. -/
def escape? : Char → Option Char
  | '0' => some '\x00'
  | 'a' => some '\x07'
  | 'b' => some '\x08'
  | 't' | '\t' => some '\t'
  | 'n' => some '\n'
  | 'v' => some '\x0b'
  | 'f' => some '\x0c'
  | 'r' => some '\r'
  | 'e' => some '\x1b'
  | ' ' => some ' '
  | '"' => some '"'
  | '\'' => some '\''
  | '\\' => some '\\'
  | 'N' => some (Char.ofNat 0x85)
  | '_' => some (Char.ofNat 0xA0)
  | 'L' => some (Char.ofNat 0x2028)
  | 'P' => some (Char.ofNat 0x2029)
  | _ => none

/-- The number of hexadecimal digits after a backslash and this letter. -/
def codeLength? : Char → Option Nat
  | 'x' => some 2
  | 'u' => some 4
  | 'U' => some 8
  | _ => none

/-- The character with a given number. -/
def charOfCode? (n : Nat) : Option Char :=
  if n.isValidChar then some (Char.ofNat n) else none

/-- Where the reader of a quoted scalar stands. -/
inductive QuotedState where
  /-- After a gap, or inside a word where the gap is none. -/
  | after (gap : Gap)
  /-- In the digits of an escape, with so many more to come after the next one. -/
  | code (more value : Nat)
  deriving DecidableEq, Repr

/-- Reads what follows an opening quote, up to and with the closing one. -/
def readQuoted (single : Bool) : QuotedState → Source → Option (Text × Source)
  | _, [] => none
  | .code more value, p :: rest => do
    let value := value * 16 + (← Text.digitValue? p.char)
    match more with
    | 0 =>
      let c ← charOfCode? value
      let (s, rest) ← readQuoted single (.after .none) rest
      return (c :: s, rest)
    | more + 1 => readQuoted single (.code more value) rest
  | .after gap, p :: rest =>
    if p.char = Source.endChar then none
    else if isSpace p.char then readQuoted single (.after (gap.addSpace p.char)) rest
    else if isBreak p.char then readQuoted single (.after gap.addBreak) rest
    else if gap.broken && Source.atAnyBoundary (p :: rest) then none
    else
      let ahead (c : Char) := (readQuoted single (.after .none) rest).map
        fun (s, rest) => (gap.text ++ c :: s, rest)
      if single then
        if p.char ≠ '\'' then ahead p.char
        else
          match rest with
          | [] => none
          | q :: more =>
            if q.char = '\'' then (readQuoted single (.after .none) more).map
              fun (s, rest) => (gap.text ++ '\'' :: s, rest)
            else some (gap.text, rest)
      else if p.char = '"' then some (gap.text, rest)
      else if p.char ≠ '\\' then ahead p.char
      else
        match rest with
        | [] => none
        | q :: more =>
          if isBreak q.char then
            (readQuoted single (.after (.lines true 0)) more).map
              fun (s, rest) => (gap.text ++ s, rest)
          else
            match escape? q.char, codeLength? q.char with
            | some c, _ => (readQuoted single (.after .none) more).map
              fun (s, rest) => (gap.text ++ c :: s, rest)
            | none, some n => (readQuoted single (.code (n - 1) 0) more).map
              fun (s, rest) => (gap.text ++ s, rest)
            | none, none => none

/-! ## Block scalars -/

/-- What becomes of the line breaks at the end of a block scalar. -/
inductive Chomping where
  | clip
  | strip
  | keep
  deriving DecidableEq, Repr

/-- The line breaks at the end of a block scalar: the one that ends its last line, and more. -/
def Chomping.tail (chomping : Chomping) (ended : Bool) (more : Nat) : Text :=
  (if ended && chomping != .strip then ['\n'] else [])
    ++ if chomping == .keep then List.replicate more '\n' else []

/-- A chomping indicator, if one is there. -/
def readChomping (s : Source) : Chomping × Source :=
  if Source.char s = '+' then (.keep, s.drop 1)
  else if Source.char s = '-' then (.strip, s.drop 1)
  else (.clip, s)

/-- An indentation indicator, if one is there; it must not be zero. -/
def readIndentation (s : Source) : Option (Nat × Source) :=
  let c := Source.char s
  if c.isDigit then
    if c = '0' then none else some (c.toNat - '0'.toNat, s.drop 1)
  else some (0, s)

/-- The indicators after the one that begins a block scalar, in either order. -/
def readBlockHeader (s : Source) : Option (Chomping × Nat × Source) := do
  if (Source.char s).isDigit then
    let (increment, s) ← readIndentation s
    let (chomping, s) := readChomping s
    return (chomping, increment, ← Source.nextLine? s)
  else
    let (chomping, s) := readChomping s
    let (increment, s) ← if chomping = .clip then some (0, s) else readIndentation s
    return (chomping, increment, ← Source.nextLine? s)

/-- Where the reader of a block scalar stands. -/
inductive BlockState where
  /-- Before a line, with the greatest column seen while the indentation is not known. After a line
  that ended there were so many empty ones. -/
  | before (indent : Option Nat) (greatest : Nat) (ended : Bool) (empty : Nat)
  | inside (indent : Nat)
  deriving DecidableEq, Repr

/-- What stands in the text between two lines of a block scalar. Folding joins lines by a space,
unless one of them begins with a blank. -/
def lineJoin (literal ended : Bool) (empty : Nat) (blankBefore blankAfter : Bool) : Text :=
  (if ! literal && ended && ! blankBefore && ! blankAfter then
    if empty = 0 then [' '] else []
  else if ended then ['\n'] else []) ++ List.replicate empty '\n'

/-- Reads the lines of a block scalar. The indentation is that of the first line with text, but at
least `least`; `blank` tells whether the last line began with a blank. -/
def readBlock (literal : Bool) (chomping : Chomping) (least : Nat) :
    Bool → BlockState → Source → Option (Text × Source)
  | _, .before _ _ ended empty, [] => some (chomping.tail ended empty, [])
  | _, .inside _, [] => some ([], [])
  | blank, .before indent greatest ended empty, p :: rest =>
    let outside := indent.all (p.column < ·)
    if outside && p.char == ' ' then
      readBlock literal chomping least blank (.before indent greatest ended empty) rest
    else if outside && p.char == '\t' then none
    else
      let greatest := max greatest p.column
      if isBreak p.char then
        readBlock literal chomping least blank (.before indent greatest ended (empty + 1)) rest
      else
        let column := indent.getD (max greatest least)
        if p.column = column && p.char != Source.endChar then
          (readBlock literal chomping least (isSpace p.char) (.inside column) rest).map
            fun (s, rest) =>
              (lineJoin literal ended empty blank (isSpace p.char) ++ p.char :: s, rest)
        else some (chomping.tail ended empty, p :: rest)
  | blank, .inside indent, p :: rest =>
    if p.char = Source.endChar then some ([], p :: rest)
    else if isBreak p.char then
      readBlock literal chomping least blank (.before (some indent) 0 true 0) rest
    else
      (readBlock literal chomping least blank (.inside indent) rest).map
        fun (s, rest) => (p.char :: s, rest)

/-- Reads a block scalar after the indicator that begins it, in a collection at a given column. -/
def readBlockScalar (literal : Bool) (enclosing : Option Nat) (s : Source) :
    Option (Text × Source) := do
  let (chomping, increment, s) ← readBlockHeader s
  let indent := if increment = 0 then none else some (enclosing.getD 0 + increment)
  let least := match enclosing with
    | some column => column + 1
    | none => 1
  readBlock literal chomping least false (.before indent 0 false 0) s

end ServerTelemetry.Yaml
