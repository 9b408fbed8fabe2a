import ServerTelemetry.Text.Number
import ServerTelemetry.Text.Pieces
import ServerTelemetry.Value.Basic

/-!
# Values in JSON

A value is written over several lines, every item of a list and every field of a record on a line of
its own. A part of a value is found by its pointer: the names of fields and the indices of items on
the way to it, each after a slash.
-/

namespace ServerTelemetry.Value


/-- One character between the quotes of a JSON string. -/
def jsonChar (c : Char) : Text :=
  if c = '"' then "\\\"".toList
  else if c = '\\' then "\\\\".toList
  else if c = '\n' then "\\n".toList
  else if c = '\r' then "\\r".toList
  else if c = '\t' then "\\t".toList
  else if c = '\x08' then "\\b".toList
  else if c = '\x0c' then "\\f".toList
  else if c.toNat < 0x20 then "\\u".toList ++ Text.hexadecimal 4 c.toNat
  else [c]

/-- A JSON string. -/
def jsonText (s : Text) : Text :=
  '"' :: s.flatMap jsonChar ++ ['"']

/-- A line break with the indentation of a depth. -/
def indentation (depth : Nat) : Text :=
  '\n' :: List.replicate (2 * depth) ' '

/-- Parts between brackets, one on a line. -/
def bracketed (depth : Nat) (left right : Char) (parts : List Text) : Text :=
  if parts.isEmpty then [left, right]
  else
    left :: indentation (depth + 1) ++ Text.join (',' :: indentation (depth + 1)) parts
      ++ indentation depth ++ [right]

mutual

/-- The value in JSON, two blanks deeper for every level. -/
def write (depth : Nat) : Value → Text
  | .null => "null".toList
  | .flag value => if value then "true".toList else "false".toList
  | .text value => jsonText value
  | .list items => bracketed depth '[' ']' (writeItems (depth + 1) items)
  | .record fields => bracketed depth '\x7b' '\x7d' (writeFields (depth + 1) fields)

/-- The values of a list in JSON. -/
def writeItems (depth : Nat) : List Value → List Text
  | [] => []
  | value :: values => value.write depth :: writeItems depth values

/-- The fields of a record in JSON. -/
def writeFields (depth : Nat) : List (Text × Value) → List Text
  | [] => []
  | (name, value) :: fields =>
    (jsonText name ++ ": ".toList ++ value.write depth) :: writeFields depth fields

end

/-! ## Pointers -/

/-- A name out of a pointer, in which `~1` stands for a slash and `~0` for a tilde. -/
def unescapeName : Text → Text
  | '~' :: '1' :: s => '/' :: unescapeName s
  | '~' :: '0' :: s => '~' :: unescapeName s
  | c :: s => c :: unescapeName s
  | [] => []

/-- An index out of a pointer, without a sign and without leading zeros. -/
def readIndex (s : Text) : Option Nat :=
  match s with
  | '+' :: _ => none
  | '0' :: _ :: _ => none
  | _ => Text.readUInt64 s

/-- The field of a name or the item of an index. -/
def child? (v : Value) (name : Text) : Option Value :=
  match v with
  | .record fields => fields.lookup name
  | .list items => (readIndex name).bind fun index => items[index]?
  | _ => none

/-- The part of a value at a pointer. -/
def find? (v : Value) (pointer : Text) : Option Value :=
  match pointer with
  | [] => some v
  | '/' :: rest => ((Text.pieces '/' rest).map unescapeName).foldlM child? v
  | _ => none

end ServerTelemetry.Value
