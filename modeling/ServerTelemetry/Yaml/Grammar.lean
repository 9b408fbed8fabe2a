import ServerTelemetry.Yaml.Layout
import ServerTelemetry.Yaml.Node

/-!
# From tokens to nodes

The grammar of documents, one function for each of its rules. A rule either reads a node from the
tokens in front or finds that there is none. Where a node may be left out, the token that follows
tells whether it was.

Every rule is given more steps than it can take: three for each token, as no more than three rules
follow one another without reading one.
-/

namespace ServerTelemetry.Yaml

/-- What reading nodes changes. -/
structure Reading where
  tokens : List Token
  /-- The numbers of the names that can be referred to, the last given first. -/
  names : List (Text × Nat) := []
  named : Named := []
  next : Nat := 0

/-- A rule of the grammar. -/
abbrev Rule (α : Type) := StateT Reading Option α

namespace Rule

/-- The next token. -/
def peek : Rule (Option Token) := do
  return (← get).tokens.head?

/-- Goes past the next token. -/
def advance : Rule Unit :=
  modify fun r => { r with tokens := r.tokens.drop 1 }

/-- Goes past the next token, which must be a given one. -/
def expect (token : Token) : Rule Unit := do
  if (← peek) = some token then advance else failure

/-- Whether the next token is one of several. -/
def isNext (tokens : List Token) : Rule Bool := do
  match ← peek with
  | some token => return tokens.contains token
  | none => return false

/-- Goes past the next token if it is a given one, and tells whether it was. -/
def skips (token : Token) : Rule Bool := do
  if (← peek) = some token then
    advance
    return true
  else return false

/-- Gives the node that follows a name, if a name is next. -/
def anchor? : Rule (Option Nat) := do
  match ← peek with
  | some (.anchor name) =>
    advance
    let number := (← get).next
    modify fun r => { r with names := (name, number) :: r.names, next := number + 1 }
    return some number
  | _ => return none

/-- The tag, if one is next. -/
def tag? : Rule (Option Tag) := do
  match ← peek with
  | some (.tag tag) =>
    advance
    return some tag
  | _ => return none

/-- A name and a tag, in either order, each of which may be left out. -/
def properties : Rule (Option Nat × Option Tag) := do
  match ← anchor? with
  | some number => return (some number, ← tag?)
  | none =>
    match ← tag? with
    | some tag => return (← anchor?, some tag)
    | none => return (none, none)

/-- Notes a node under its number. -/
def note (number : Option Nat) (node : Node) : Rule Unit :=
  match number with
  | some number => modify fun r => { r with named := (number, node) :: r.named }
  | none => pure ()

end Rule

open Rule

mutual

/-- A node. In a block it may be told by indentation; as the value of a mapping in a block it may be
a sequence that is not indented. -/
def readNode : Nat → (block indentless : Bool) → Rule Node
  | 0, _, _ => failure
  | steps + 1, block, indentless => do
    match ← peek with
    | some (.alias name) =>
      advance
      match (← get).names.lookup name with
      | some number => return .alias number
      | none => failure
    | _ =>
      let (number, tag) ← properties
      let node ← readContent steps block indentless tag (number.isSome || tag.isSome)
      note number node
      return node

/-- A node without its name and tag; it may be left out where those are there. -/
def readContent : Nat → (block indentless : Bool) → Option Tag → (omissible : Bool) → Rule Node
  | 0, _, _, _, _ => failure
  | steps + 1, block, indentless, tag, omissible => do
    match ← peek with
    | some (.scalar text plain) =>
      advance
      return .scalar text plain tag
    | some .flowSequenceStart =>
      advance
      return .sequence (← readFlowItems steps true)
    | some .flowMappingStart =>
      advance
      return .mapping (← readFlowEntries steps true)
    | token =>
      if token = some .blockEntry ∧ indentless then
        return .sequence (← readIndentlessItems steps)
      else if token = some .blockSequenceStart ∧ block then
        advance
        return .sequence (← readBlockItems steps)
      else if token = some .blockMappingStart ∧ block then
        advance
        return .mapping (← readBlockEntries steps)
      else if omissible then return .unwritten tag
      else failure

/-- A node that is left out if one of some tokens follows. -/
def readOptional : Nat → (block indentless : Bool) → List Token → Rule Node
  | 0, _, _, _ => failure
  | steps + 1, block, indentless, followers => do
    if ← isNext followers then return .missing else readNode steps block indentless

/-- The items of a sequence told by indentation. -/
def readBlockItems : Nat → Rule (List Node)
  | 0 => failure
  | steps + 1 => do
    if ← skips .blockEnd then return []
    expect .blockEntry
    let item ← readOptional steps true false [.blockEntry, .blockEnd]
    return item :: (← readBlockItems steps)

/-- The items of a sequence that is not indented; it ends where no item follows. -/
def readIndentlessItems : Nat → Rule (List Node)
  | 0 => failure
  | steps + 1 => do
    if ← skips .blockEntry then
      let item ← readOptional steps true false [.blockEntry, .key, .value, .blockEnd]
      return item :: (← readIndentlessItems steps)
    else return []

/-- The entries of a mapping told by indentation. -/
def readBlockEntries : Nat → Rule (List (Node × Node))
  | 0 => failure
  | steps + 1 => do
    if ← skips .blockEnd then return []
    let followers := [Token.key, .value, .blockEnd]
    let key ←
      if ← skips .key then readOptional steps true true followers
      else if ← isNext [.value] then pure Node.missing
      else failure
    let value ←
      if ← skips .value then readOptional steps true true followers else pure Node.missing
    return (key, value) :: (← readBlockEntries steps)

/-- The items of a sequence in brackets. A comma stands before all but the first, and may stand
after the last. -/
def readFlowItems : Nat → (first : Bool) → Rule (List Node)
  | 0, _ => failure
  | steps + 1, first => do
    if ← skips .flowSequenceEnd then return []
    if ! first then expect .flowEntry
    if ← skips .flowSequenceEnd then return []
    if ← skips .key then
      let pair ← readFlowPair steps
      return .mapping [pair] :: (← readFlowItems steps false)
    else
      let item ← readNode steps false false
      return item :: (← readFlowItems steps false)

/-- An item of a sequence in brackets that is a mapping of one entry. A token that follows instead
of a key is passed over. -/
def readFlowPair : Nat → Rule (Node × Node)
  | 0 => failure
  | steps + 1 => do
    let key ←
      if ← isNext [.value, .flowEntry, .flowSequenceEnd] then
        advance
        pure Node.missing
      else readNode steps false false
    let value ←
      if ← skips .value then readOptional steps false false [.flowEntry, .flowSequenceEnd]
      else pure Node.missing
    return (key, value)

/-- The entries of a mapping in braces. A comma stands before all but the first, and may stand after
the last; a node that is no key has no value. -/
def readFlowEntries : Nat → (first : Bool) → Rule (List (Node × Node))
  | 0, _ => failure
  | steps + 1, first => do
    if ← skips .flowMappingEnd then return []
    if ! first then expect .flowEntry
    if ← skips .flowMappingEnd then return []
    if ← skips .key then
      let key ← readOptional steps false false [.value, .flowEntry, .flowMappingEnd]
      let value ← readFlowValue steps
      return (key, value) :: (← readFlowEntries steps false)
    else if ← isNext [.value] then
      let value ← readFlowValue steps
      return (Node.missing, value) :: (← readFlowEntries steps false)
    else
      let key ← readNode steps false false
      return (key, Node.missing) :: (← readFlowEntries steps false)

/-- The value of an entry of a mapping in braces. -/
def readFlowValue : Nat → Rule Node
  | 0 => failure
  | steps + 1 => do
    if ← skips .value then readOptional steps false false [.flowEntry, .flowMappingEnd]
    else return .missing

end

/-- The root of a document; an empty document is what is missing. -/
def readRoot (steps : Nat) : Rule Node := do
  match ← peek with
  | none | some .directive | some .documentStart | some .documentEnd => return .missing
  | _ => readNode steps true false

/-- Goes past all tokens of a kind that are next. -/
def skipAll (token : Token) : Rule Unit :=
  modify fun r => { r with tokens := r.tokens.dropWhile (· == token) }

/-- The documents of a text. Only the first can do without a mark at its beginning. Names are not
known from one document to the next. -/
def readDocuments : Nat → (first : Bool) → Rule (List Node)
  | 0, _ => failure
  | steps + 1, first => do
    if ! first then skipAll .documentEnd
    match ← peek with
    | none => return []
    | some token =>
      modify fun r => { r with names := [] }
      let root ←
        if first ∧ token ≠ .directive ∧ token ≠ .documentStart then readNode steps true false
        else do
          skipAll .directive
          expect .documentStart
          readRoot steps
      let _ ← skips .documentEnd
      return root :: (← readDocuments steps false)

/-- The documents that tokens make up. -/
def Documents.ofTokens? (tokens : List Token) : Option Documents := do
  let (roots, reading) ← (readDocuments (3 * tokens.length + 3) true).run { tokens := tokens }
  return ⟨roots, reading.named⟩

/-- The documents of a text. -/
def Documents.read? (s : Text) : Option Documents :=
  (tokens? s).bind Documents.ofTokens?

end ServerTelemetry.Yaml
