import ServerTelemetry.Yaml.Token

/-!
# Nodes of a document

A document is a tree of scalars, sequences and mappings. A node with a name can be referred to
further on, or inside itself, so the tree may have references, and the nodes with names are kept
beside it.
-/

namespace ServerTelemetry.Yaml

/-- A node. -/
inductive Node where
  /-- A scalar with its text. A plain scalar without a tag may be something other than text. -/
  | scalar (text : Text) (plain : Bool) (tag : Option Tag)
  | sequence (items : List Node)
  /-- A mapping, in the order it is written. -/
  | mapping (entries : List (Node × Node))
  /-- A reference to the node with a number. -/
  | alias (number : Nat)
  deriving Repr, Inhabited

/-- What stands where no node is written. -/
def Node.missing : Node :=
  .scalar ['~'] true none

/-- What stands where nothing but a name or a tag is written. -/
def Node.unwritten (tag : Option Tag) : Node :=
  .scalar [] true tag

/-- The nodes with names, by number. -/
abbrev Named := List (Nat × Node)

/-- The node that is meant. -/
def Node.target (named : Named) : Node → Node
  | .alias number => (named.lookup number).getD .missing
  | node => node

/-- The documents of a text. -/
structure Documents where
  roots : List Node
  /-- The nodes with names of all documents. -/
  named : Named

end ServerTelemetry.Yaml
