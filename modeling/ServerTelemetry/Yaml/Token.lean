import ServerTelemetry.Text.Blank

/-!
# Tokens of a document

A document is read as a sequence of tokens. Collections that are told by indentation are bracketed
by tokens of their own, so that what comes after the tokens need not know about layout.
-/

namespace ServerTelemetry.Yaml

/-- A tag: the handle, and what follows it. -/
structure Tag where
  /-- The handle, `!` for tags of the application. -/
  handle : Text
  suffix : Text
  deriving DecidableEq, Repr

/-- A token. -/
inductive Token where
  /-- A line of instructions for the reader; none of them changes anything. -/
  | directive
  /-- The mark that begins a document. -/
  | documentStart
  /-- The mark that ends a document. -/
  | documentEnd
  /-- A sequence told by indentation begins. -/
  | blockSequenceStart
  /-- A mapping told by indentation begins. -/
  | blockMappingStart
  /-- A collection told by indentation ends. -/
  | blockEnd
  /-- A sequence in brackets begins. -/
  | flowSequenceStart
  | flowSequenceEnd
  | flowMappingStart
  | flowMappingEnd
  /-- An item of a sequence follows. -/
  | blockEntry
  | flowEntry
  | key
  | value
  /-- A reference to a node with a name. -/
  | alias (name : Text)
  /-- The name of the node that follows. -/
  | anchor (name : Text)
  /-- The tag of the node that follows. -/
  | tag (tag : Tag)
  /-- A scalar, plain or in another style. -/
  | scalar (text : Text) (plain : Bool)
  deriving DecidableEq, Repr

end ServerTelemetry.Yaml
