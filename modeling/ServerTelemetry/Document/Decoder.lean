import ServerTelemetry.Duration.Read
import ServerTelemetry.Labels
import ServerTelemetry.Yaml.Content

/-!
# Reading values out of a document

A decoder reads a value out of a node. When the node does not fit, it says what is wrong with it and
where it stands. Nodes are visited in the order they are written, so of several faults the first one
is reported.

A `Section` is a record whose fields have names and defaults. It is written as a mapping, in any
order, or as a sequence of the values of its first fields. Decoding a section puts the fields that
are written on top of the defaults.
-/

namespace ServerTelemetry.Document

open Text Yaml

/-- A step from a node to one inside it. -/
inductive PlaceStep where
  | key (name : Text)
  | item (index : Nat)
  /-- To the value of a key that is no scalar. -/
  | unnamed
  deriving DecidableEq, Repr

/-- Where a node stands: the steps to it, the last one first. -/
abbrev Place := List PlaceStep

/-- What is wrong with a node. -/
inductive Fault where
  /-- It holds something else than expected. -/
  | content (found : Content) (expected : Text)
  /-- Its text is not what is expected. -/
  | value (text expected : Text)
  /-- It has a field that there is not. -/
  | unknownField (name : Text) (fields : List Text)
  | repeatedField (name : Text)
  /-- It is none of the words it may be. -/
  | unknownWord (word : Text) (words : List Text)
  /-- It has more parts than it may have. -/
  | tooLong
  deriving DecidableEq, Repr

/-- A fault and where it is. -/
structure Misfit where
  place : Place
  fault : Fault
  deriving DecidableEq, Repr

/-! ## Wording -/

/-- A place as messages show it; the root has no name. -/
def Place.write : Place → Text
  | [] => []
  | .key name :: place => inner place ++ name
  | .item index :: place => outer place ++ '[' :: decimal index ++ [']']
  | .unnamed :: place => inner place ++ ['?']
where
  inner (place : Place) : Text :=
    if place.isEmpty then [] else write place ++ ['.']
  outer (place : Place) : Text :=
    if place.isEmpty then ['.'] else write place

/-- A choice between names. -/
def oneOf : List Text → Text
  | [] => []
  | [a] => ticked a
  | [a, b] => ticked a ++ " or ".toList ++ ticked b
  | names => "one of ".toList ++ join ", ".toList (names.map ticked)

/-- The wording of a fault; there is none for a node with too many parts. -/
def Fault.message? : Fault → Option Text
  | content found expected =>
    some ("invalid type: ".toList ++ found.describe ++ ", expected ".toList ++ expected)
  | value text expected =>
    some ("invalid value: string ".toList ++ quote text ++ ", expected ".toList ++ expected)
  | unknownField name fields =>
    some ("unknown field ".toList ++ ticked name ++ ", expected ".toList ++ oneOf fields)
  | repeatedField name => some ("duplicate field ".toList ++ ticked name)
  | unknownWord word words =>
    some ("unknown variant ".toList ++ ticked word ++ ", expected ".toList ++ oneOf words)
  | tooLong => none

/-- The wording of a misfit: the place, and what is wrong there. -/
def Misfit.message? (m : Misfit) : Option Text :=
  m.fault.message?.map fun message =>
    if m.place.isEmpty then message else m.place.write ++ ": ".toList ++ message

/-! ## Decoders -/

/-- Reads a value out of a node at some place, given the nodes with names. -/
abbrev Decoder (α : Type) := Named → Place → Node → Except Misfit α

namespace Decoder

/-- A fault at a place. -/
def fail {α : Type} (place : Place) (fault : Fault) : Except Misfit α :=
  .error ⟨place, fault⟩

/-- What a node holds. -/
def content : Decoder Content := fun named place node =>
  match node.target named with
  | .scalar text plain tag =>
    match Content.ofScalar text plain tag with
    | .ok content => .ok content
    | .error expected => fail place (.value text expected)
  | .sequence _ => .ok .sequence
  | .mapping _ => .ok .mapping
  | .alias _ => .ok .nothing

/-- The fault of a node that holds something else than expected. -/
def refuse {α : Type} (expected : Text) : Decoder α := fun named place node => do
  fail place (.content (← content named place node) expected)

/-- Nothing. -/
def nothing : Decoder Unit := fun named place node => do
  match ← content named place node with
  | .nothing => return ()
  | other => fail place (.content other "unit".toList)

/-- A truth value. -/
def flag : Decoder Bool := fun named place node => do
  match ← content named place node with
  | .flag value => return value
  | other => fail place (.content other "a boolean".toList)

/-- A text, which any scalar is. -/
def text : Decoder Text := fun named place node =>
  match node.target named with
  | .scalar text .. => .ok text
  | _ => refuse "a string".toList named place node

/-- A text, or nothing written as such. -/
def text? : Decoder (Option Text) := fun named place node =>
  match node.target named with
  | .scalar s true none =>
    .ok (if s = ['~'] ∨ s = "null".toList then none else some s)
  | .scalar s true (some tag) =>
    if tag = ⟨"!!".toList, "null".toList⟩ then
      if s = ['~'] ∨ s = "null".toList then .ok none
      else fail (place.drop 1) (.value s "null".toList)
    else .ok (some s)
  | _ => (text named place node).map some

/-- A duration. -/
def duration : Decoder Duration := fun named place node =>
  match node.target named with
  | .scalar s .. =>
    match Duration.read s with
    | some duration => .ok duration
    | none => fail place (.value s "a duration".toList)
  | _ => refuse "a duration".toList named place node

/-- The items of a list, from an index on. -/
def items {α : Type} (item : Decoder α) (named : Named) (place : Place) :
    Nat → List Node → Except Misfit (List α)
  | _, [] => .ok []
  | index, node :: nodes => do
    let value ← item named (.item index :: place) node
    return value :: (← items item named place (index + 1) nodes)

/-- A list. -/
def list {α : Type} (item : Decoder α) : Decoder (List α) := fun named place node =>
  match node.target named with
  | .sequence nodes => items item named place 0 nodes
  | _ => refuse "a sequence".toList named place node

/-- A key, with the step to its value. -/
def key (expected : Text) (named : Named) (place : Place) (node : Node) :
    Except Misfit (Text × PlaceStep) :=
  match node with
  | .scalar name .. => .ok (name, .key name)
  | _ =>
    match node.target named with
    | .scalar name .. => .ok (name, .unnamed)
    | _ => refuse expected named place node

/-- Labels, of which the last one of a name counts. -/
def labels : Decoder Labels := fun named place node =>
  match node.target named with
  | .mapping entries => do
    let entries ← entries.mapM fun (name, value) => do
      let (name, step) ← key "a string".toList named place name
      return (name, ← text named (step :: place) value)
    return Labels.empty.insertAll entries
  | _ => refuse "a map".toList named place node

/-- One of several words. A word may also be the key of a mapping that holds nothing under it. -/
def word {α : Type} (kind : Text) (words : List (Text × α)) : Decoder α :=
  fun named place node =>
    let unknown (name : Text) := Fault.unknownWord name (words.map Prod.fst)
    match node.target named with
    | .scalar name _ tag =>
      match tag with
      | some ⟨['!'], suffix⟩ =>
        if (words.lookup suffix).isSome then
          fail (.key suffix :: place) (.content (.text name) "unit".toList)
        else (words.lookup name).elim (fail place (unknown name)) .ok
      | _ => (words.lookup name).elim (fail place (unknown name)) .ok
    | .mapping ((.scalar name .., value) :: more) => do
      let result ← (words.lookup name).elim (fail (place.drop 1) (unknown name)) .ok
      nothing named (.key name :: place) value
      if more.isEmpty then return result else fail place .tooLong
    | .mapping ((other, _) :: _) =>
      refuse ("variant of enum ".toList ++ ticked kind) named place other
    | .mapping [] => fail place .tooLong
    | _ => refuse "string or singleton map".toList named place node

end Decoder

/-! ## Sections -/

/-- A field of a section. -/
structure Field (σ : Type) where
  name : Text
  /-- Puts the value out of a node into the section. -/
  decode : Named → Place → Node → σ → Except Misfit σ

/-- The field with a decoder for its value. -/
def Field.of {σ α : Type} (name : String) (decoder : Decoder α) (put : α → σ → σ) : Field σ where
  name := name.toList
  decode named place node s := return put (← decoder named place node) s

/-- A section. -/
structure Section (σ : Type) where
  /-- What the section is called in messages. -/
  kind : Text
  /-- The fields, in the order of their values in a sequence. -/
  fields : List (Field σ)

namespace Section

variable {σ : Type}

/-- The names of the fields. -/
def names (s : Section σ) : List Text :=
  s.fields.map (·.name)

/-- The field with a name. -/
def field? (s : Section σ) (name : Text) : Option (Field σ) :=
  s.fields.find? (·.name == name)

/-- The entries of a mapping, after those of some names. -/
def decodeEntries (s : Section σ) (named : Named) (place : Place) :
    List Text → List (Node × Node) → σ → Except Misfit σ
  | _, [], value => .ok value
  | seen, (name, node) :: entries, value => do
    let (name, step) ← Decoder.key "field identifier".toList named place name
    match s.field? name with
    | none => Decoder.fail place (.unknownField name s.names)
    | some field =>
      if seen.contains name then Decoder.fail place (.repeatedField name)
      let value ← field.decode named (step :: place) node value
      decodeEntries s named place (name :: seen) entries value

/-- The items of a sequence, from an index on, as values of the fields that are left. -/
def decodeItems (named : Named) (place : Place) :
    Nat → List (Field σ) → List Node → σ → Except Misfit σ
  | _, _, [], value => .ok value
  | _, [], _ :: _, _ => Decoder.fail place .tooLong
  | index, field :: fields, node :: nodes, value => do
    let value ← field.decode named (.item index :: place) node value
    decodeItems named place (index + 1) fields nodes value

/-- The section on top of its defaults. -/
def decode (s : Section σ) (defaults : σ) : Decoder σ := fun named place node =>
  match node.target named with
  | .mapping entries => s.decodeEntries named place [] entries defaults
  | .sequence nodes => decodeItems named place 0 s.fields nodes defaults
  | _ => Decoder.refuse ("struct ".toList ++ s.kind) named place node

end Section

end ServerTelemetry.Document
