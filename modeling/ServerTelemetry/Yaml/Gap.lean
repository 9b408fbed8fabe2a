import ServerTelemetry.Yaml.Source

/-!
# Blanks inside scalars

A plain or quoted scalar may be continued on the next line. The blanks between two of its words are
kept if they stand on one line; a line break becomes a space, and of several line breaks all but the
first are kept. A line break that is escaped does not become a space.
-/

namespace ServerTelemetry.Yaml

/-- What has been read since the last word of a scalar. -/
inductive Gap where
  | none
  | blanks (spaces : Text)
  /-- A line break, which may have been escaped, and how many more. -/
  | lines (escaped : Bool) (more : Nat)
  deriving DecidableEq, Repr

namespace Gap

/-- The gap with one more blank; at the start of a line blanks are dropped. -/
def addSpace (c : Char) : Gap → Gap
  | none => blanks [c]
  | blanks spaces => blanks (spaces ++ [c])
  | lines escaped more => lines escaped more

/-- The gap with one more line break; blanks before it are dropped. -/
def addBreak : Gap → Gap
  | lines escaped more => lines escaped (more + 1)
  | _ => lines false 0

/-- Whether the gap has a line break. -/
def broken : Gap → Bool
  | lines .. => true
  | _ => false

/-- What the gap is in the text of the scalar. -/
def text : Gap → Text
  | none => []
  | blanks spaces => spaces
  | lines escaped 0 => if escaped then [] else [' ']
  | lines _ (more + 1) => List.replicate (more + 1) '\n'

end Gap

end ServerTelemetry.Yaml
