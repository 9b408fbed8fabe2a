import Mathlib.Logic.ExistsUnique
import ServerTelemetry.Configuration.Schema

/-!
# What schemas allow

A schema (JSON Schema, draft 7) is a value itself: a record of keywords, each of which says something
about the values the schema describes. `Schema.Allows` is what they say together, with references
followed into the definitions. Only the keywords of `Keyword` are known, and a schema with another
one allows nothing, so nothing that a schema says is passed over.

`Schema.Leads` goes from a schema to the schemas for what is under the keys of records.
-/

namespace ServerTelemetry

namespace Value

/-- The items of a list. -/
def items : Value → List Value
  | .list items => items
  | _ => []

/-- The fields of a record. -/
def fields : Value → List (Text × Value)
  | .record fields => fields
  | _ => []

/-- The type of a value, as schemas call it. -/
def typeName : Value → Text
  | .null => "null".toList
  | .flag _ => "boolean".toList
  | .text _ => "string".toList
  | .list _ => "array".toList
  | .record _ => "object".toList

theorem sizeOf_lt_of_mem_items {x v : Value} (h : x ∈ v.items) : sizeOf x < sizeOf v := by
  cases v with
  | list items =>
    have hitem : sizeOf x < sizeOf items := List.sizeOf_lt_of_mem h
    rw [list.sizeOf_spec]
    omega
  | _ => cases h

theorem sizeOf_lt_of_mem_fields {f : Text × Value} {v : Value} (h : f ∈ v.fields) :
    sizeOf f.2 < sizeOf v := by
  obtain ⟨name, x⟩ := f
  cases v with
  | record fields =>
    have hfield : sizeOf (name, x) < sizeOf fields := List.sizeOf_lt_of_mem h
    rw [Prod.mk.sizeOf_spec] at hfield
    rw [record.sizeOf_spec]
    change sizeOf x < 1 + sizeOf fields
    omega
  | _ => cases h

theorem mem_of_lookup {fields : List (Text × Value)} {name : Text} {v : Value}
    (h : fields.lookup name = some v) : (name, v) ∈ fields := by
  obtain ⟨before, after, rfl, -⟩ := List.lookup_eq_some_iff.1 h
  exact List.mem_append_right before List.mem_cons_self

end Value

namespace Schema

/-! ## Keywords -/

/-- What a keyword of a schema is. -/
inductive Keyword where
  /-- It says nothing about the values. -/
  | remark
  | type
  | enum
  | allOf
  | oneOf
  | items
  | properties
  | additionalProperties
  deriving DecidableEq, Repr

namespace Keyword

/-- The keywords that are known, by name. -/
def known : List (String × Keyword) :=
  [("$schema", remark), ("title", remark), ("description", remark), ("default", remark),
    ("definitions", remark), ("type", type), ("enum", enum), ("allOf", allOf), ("oneOf", oneOf),
    ("items", items), ("properties", properties), ("additionalProperties", additionalProperties)]

/-- The keyword with a name. -/
def ofName? (name : Text) : Option Keyword :=
  (known.find? fun (other, _) => other.toList == name).map Prod.snd

/-- What a keyword with its operand says about a value, beside schemas for some properties. It may ask
which of the schemas in the operand allow the value, and whether a schema allows a value inside it. -/
def Holds (properties : List (Text × Value)) (operand value : Value)
    (here : ∀ s : Value, s ∈ operand.items → Prop)
    (inside : Value → ∀ x : Value, sizeOf x < sizeOf value → Prop) : Keyword → Prop
  | remark => True
  | type => .text value.typeName ∈ operand :: operand.items
  | enum => value ∈ operand.items
  | allOf => ∀ s, ∀ h : s ∈ operand.items, here s h
  | oneOf => ∃! i : Fin operand.items.length, here operand.items[i] (List.getElem_mem i.isLt)
  | items => ∀ x, ∀ h : x ∈ value.items, inside operand x (Value.sizeOf_lt_of_mem_items h)
  | .properties => ∀ f, ∀ h : f ∈ value.fields, ∀ s, operand.fields.lookup f.1 = some s →
      inside s f.2 (Value.sizeOf_lt_of_mem_fields h)
  | additionalProperties => ∀ f, ∀ h : f ∈ value.fields, properties.lookup f.1 = none →
      inside operand f.2 (Value.sizeOf_lt_of_mem_fields h)

end Keyword

/-- The schemas for the properties that are listed among keywords. -/
def propertiesAmong (keywords : List (Text × Value)) : List (Text × Value) :=
  ((keywords.lookup "properties".toList).map Value.fields).getD []

/-- The place of a definition. -/
def pointer (name : Text) : Value :=
  .text ("#/definitions/".toList ++ name)

/-- The names of definitions. -/
def namesOf (definitions : List (Text × Value)) : List Text :=
  definitions.map Prod.fst

/-- Whether a schema allows a value, with the definitions there are. A reference stands for the
definition with its name, whatever else is said beside it. No definition is gone through twice for one
and the same value, and `ahead` are the names of those that may still be. -/
def Allows (definitions : List (Text × Value)) (ahead : List Text) (schema value : Value) : Prop :=
  match schema with
  | .flag all => all = true
  | .record keywords =>
    match keywords.lookup "$ref".toList with
    | some target =>
      ∃ name, target = pointer name ∧ ∃ _ : name ∈ ahead, ∃ s, definitions.lookup name = some s ∧
        Allows definitions (ahead.erase name) s value
    | none =>
      ∀ k, ∀ _ : k ∈ keywords, ∃ keyword, Keyword.ofName? k.1 = some keyword ∧
        keyword.Holds (propertiesAmong keywords) k.2 value
          (fun s _ => Allows definitions ahead s value)
          (fun s x _ => Allows definitions (namesOf definitions) s x)
  | _ => False
termination_by (sizeOf value, ahead.length, sizeOf schema)
decreasing_by
  -- A reference uses up a definition, a keyword goes into the schema or into the value.
  · refine .right _ (.left _ _ ?_)
    rw [List.length_erase_of_mem ‹_›]
    exact Nat.sub_lt (List.length_pos_of_mem ‹_›) Nat.one_pos
  · exact .right _ (.right _ (Nat.lt_trans (Value.sizeOf_lt_of_mem_items ‹_›)
      (Value.sizeOf_lt_of_mem_fields (v := .record keywords) ‹_›)))
  · exact .left _ _ ‹_›

variable {definitions : List (Text × Value)} {ahead : List Text}

theorem allows_record_iff {keywords : List (Text × Value)} {value : Value}
    (h : keywords.lookup "$ref".toList = none) :
    Allows definitions ahead (.record keywords) value ↔
      ∀ k ∈ keywords, ∃ keyword, Keyword.ofName? k.1 = some keyword ∧
        keyword.Holds (propertiesAmong keywords) k.2 value
          (fun s _ => Allows definitions ahead s value)
          (fun s x _ => Allows definitions (namesOf definitions) s x) := by
  rw [Allows]
  simp only [h]

/-- The definitions that are part of a schema. -/
def definitionsOf (schema : Value) : List (Text × Value) :=
  ((schema.fields.lookup "definitions".toList).map Value.fields).getD []

/-- A schema with its definitions allows a value. -/
def Describes (schema value : Value) : Prop :=
  Allows (definitionsOf schema) (namesOf (definitionsOf schema)) schema value

/-- A schema allows no record with some key. -/
def Forbids (definitions : List (Text × Value)) (schema : Value) (key : Text) : Prop :=
  ∀ ahead fields, key ∈ fields.map Prod.fst → ¬ Allows definitions ahead schema (.record fields)

/-- A schema of records. -/
def OfRecords (schema : Value) : Prop :=
  schema.fields.lookup "type".toList = some (.text "object".toList)

/-- A schema that says nothing about what is under keys. -/
structure Plain (schema : Value) : Prop where
  noReference : schema.fields.lookup "$ref".toList = none
  noParts : schema.fields.lookup "allOf".toList = none
  noProperties : schema.fields.lookup "properties".toList = none
  noRecords : ¬ OfRecords schema

/-- A schema lists these properties, and no others are allowed. -/
structure ListsOnly (schema : Value) (names : List Text) : Prop where
  listed : ∃ properties, schema.fields.lookup "properties".toList = some (.record properties) ∧
    properties.map Prod.fst = names
  additional : schema.fields.lookup "additionalProperties".toList = some (.flag false)

/-- The schemas for what keys lead to, one inside the other, from the root of a document on. -/
inductive Leads (schema : Value) : List Text → Value → Prop
  | root : Leads schema [] schema
  /-- By a reference, to a definition. -/
  | reference {path : List Text} {s : Value} {name : Text} {definition : Value}
      (h : Leads schema path s) (htarget : s.fields.lookup "$ref".toList = some (pointer name))
      (hname : (definitionsOf schema).lookup name = some definition) : Leads schema path definition
  /-- To one of several schemas for one thing. -/
  | part {path : List Text} {s : Value} {parts : List Value} {part : Value}
      (h : Leads schema path s) (hparts : s.fields.lookup "allOf".toList = some (.list parts))
      (hpart : part ∈ parts) : Leads schema path part
  | property {path : List Text} {s : Value} {properties : List (Text × Value)} {key : Text}
      {property : Value} (h : Leads schema path s)
      (hproperties : s.fields.lookup "properties".toList = some (.record properties))
      (hkey : properties.lookup key = some property) : Leads schema (path ++ [key]) property

end Schema
end ServerTelemetry
