import ServerTelemetry.Yaml.Node

/-!
# Plain values

The values that configurations and schemas are written as: nothing, truth values, texts, lists and
records. A value is a document of its own, in which every text is quoted.
-/

namespace ServerTelemetry

/-- A plain value. -/
inductive Value where
  | null
  | flag (value : Bool)
  | text (value : Text)
  | list (items : List Value)
  /-- A record, in the order it is written. -/
  | record (fields : List (Text × Value))
  deriving Repr, Inhabited

namespace Value

/-- A list of texts. -/
def texts (values : List Text) : Value :=
  .list (values.map .text)

/-- A text that may be absent. -/
def text? (value : Option Text) : Value :=
  match value with
  | some value => .text value
  | none => .null

mutual

/-- The value as the root of a document. -/
def toNode : Value → Yaml.Node
  | .null => .scalar "null".toList true none
  | .flag value => .scalar (if value then "true".toList else "false".toList) true none
  | .text value => .scalar value false none
  | .list items => .sequence (toNodes items)
  | .record fields => .mapping (toEntries fields)

/-- The values of a list as nodes. -/
def toNodes : List Value → List Yaml.Node
  | [] => []
  | value :: values => value.toNode :: toNodes values

/-- The fields of a record as entries of a mapping. -/
def toEntries : List (Text × Value) → List (Yaml.Node × Yaml.Node)
  | [] => []
  | (name, value) :: fields => (.scalar name false none, value.toNode) :: toEntries fields

end

end Value

end ServerTelemetry
