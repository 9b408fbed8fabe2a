import ServerTelemetry.Yaml.Property

/-!
# From characters to tokens

The reader of tokens keeps the columns of the collections it is in. A token right of the innermost
column may begin a collection; a token left of it ends one.

A key is only known to be one when its colon is met, so wherever a key may stand the reader
remembers the number of the token that would begin it. The colon then puts the key's token there.
Such a key must be on one line with its colon, at most 1024 characters before it.
-/

namespace ServerTelemetry.Yaml

/-- A token that may turn out to begin a key. -/
structure PossibleKey where
  /-- The number of tokens before it. -/
  number : Nat
  place : Placed
  required : Bool
  deriving DecidableEq, Repr

/-- The reader of tokens. -/
structure Layout where
  source : Source
  /-- The tokens so far, the last one first. -/
  tokens : List Token := []
  count : Nat := 0
  /-- The columns of the collections told by indentation, the innermost first. -/
  columns : List Nat := []
  /-- The possible key of the innermost flow collection, or of the document. -/
  key : Option PossibleKey := none
  /-- The possible keys of the collections around it, the innermost first. -/
  outer : List (Option PossibleKey) := []
  keyAllowed : Bool := true
  /-- The index after the last quoted scalar; a colon there needs no blank after it. -/
  quotedEnd : Option Nat := none
  deriving DecidableEq, Repr

namespace Layout

/-- Whether the reader is in a flow collection. -/
def inFlow (l : Layout) : Bool :=
  ! l.outer.isEmpty

/-- The most flow collections around a token. -/
def flowLimit : Nat :=
  255

/-- The greatest distance of a key's colon from the key's beginning. -/
def keyReach : Nat :=
  1024

/-- The next character. -/
def char (l : Layout) : Char :=
  Source.char l.source

/-- The place of the next character. -/
def place (l : Layout) : Placed :=
  Source.place l.source

/-- Adds a token. -/
def push (l : Layout) (token : Token) : Layout :=
  { l with tokens := token :: l.tokens, count := l.count + 1 }

/-- Adds tokens before the token of a given number. -/
def insert (l : Layout) (number : Nat) (tokens : List Token) : Layout :=
  let behind := l.count - number
  { l with
    tokens := l.tokens.take behind ++ tokens.reverse ++ l.tokens.drop behind
    count := l.count + tokens.length }

/-- Moves on by so many characters. -/
def skip (l : Layout) (n : Nat) : Layout :=
  { l with source := l.source.drop n }

/-! ## Collections told by indentation -/

/-- Whether a collection that begins at a column is inside the innermost one. -/
def begins (l : Layout) (column : Nat) : Bool :=
  ! l.inFlow && l.columns.head?.all (· < column)

/-- Begins a collection at a column, unless it is there already. -/
def openBlock (l : Layout) (column : Nat) (token : Token) : Layout :=
  if l.begins column then { l.push token with columns := column :: l.columns } else l

/-- Ends the collections right of a column. -/
def closeBlocks (l : Layout) (keep : Nat → Bool) : Layout :=
  if l.inFlow then l
  else
    let closed := l.columns.takeWhile (! keep ·)
    let ends := closed.map fun _ => Token.blockEnd
    { l with
      tokens := ends ++ l.tokens
      count := l.count + ends.length
      columns := l.columns.dropWhile (! keep ·) }

/-- Ends all collections. -/
def closeAll (l : Layout) : Layout :=
  l.closeBlocks fun _ => false

/-! ## Possible keys -/

/-- Whether a possible key is too far back to be one. -/
def isStale (l : Layout) (key : PossibleKey) : Bool :=
  key.place.line < l.place.line || key.place.index + keyReach < l.place.index

/-- A possible key, if it still is one. -/
def fresh? (l : Layout) : Option PossibleKey → Option (Option PossibleKey)
  | none => some none
  | some key =>
    if l.isStale key then if key.required then none else some none
    else some (some key)

/-- Forgets the possible keys that are too far back. -/
def dropStale (l : Layout) : Option Layout := do
  return { l with key := ← l.fresh? l.key, outer := ← l.outer.mapM l.fresh? }

/-- Forgets the possible key, as something else follows. -/
def dropKey (l : Layout) : Option Layout :=
  if l.key.any (·.required) then none else some { l with key := none }

/-- Remembers that the next token may begin a key. -/
def saveKey (l : Layout) : Option Layout :=
  if l.keyAllowed then do
    let l ← l.dropKey
    let required := l.inFlow && l.columns.head? == some l.place.column
    return { l with key := some ⟨l.count, l.place, required⟩ }
  else some l

/-- Sets whether a key may stand here. -/
def allowKey (l : Layout) (allowed : Bool) : Layout :=
  { l with keyAllowed := allowed }

/-! ## Single tokens -/

/-- Blanks, comments and line ends. Outside flow collections a key may follow a line end; a tab is
no blank where a key may stand. -/
def skipBlanks (inFlow : Bool) : Bool → Bool → Source → Bool × Source
  | allowed, _, [] => (allowed, [])
  | allowed, comment, p :: rest =>
    if isBreak p.char then skipBlanks inFlow (allowed || ! inFlow) false rest
    else if comment && p.char != Source.endChar then skipBlanks inFlow allowed true rest
    else if p.char = ' ' || (p.char = '\t' && (inFlow || ! allowed)) then
      skipBlanks inFlow allowed false rest
    else if p.char = '#' then skipBlanks inFlow allowed true rest
    else (allowed, p :: rest)

/-- Moves on to the next token. -/
def toToken (l : Layout) : Layout :=
  let (allowed, source) := skipBlanks l.inFlow l.keyAllowed false l.source
  { l with source := source, keyAllowed := allowed }

/-- A mark that bounds a document. -/
def boundary (l : Layout) (token : Token) : Option Layout := do
  let l ← l.closeAll.dropKey
  return ((l.allowKey false).skip 3).push token

/-- A directive. -/
def directive (l : Layout) : Option Layout := do
  let l ← l.closeAll.dropKey
  let source ← readDirective l.source
  return { (l.allowKey false).push .directive with source := source }

/-- A flow collection begins. -/
def openFlow (l : Layout) (token : Token) : Option Layout := do
  let l ← l.saveKey
  if flowLimit ≤ l.outer.length then none
  let l := { l with outer := l.key :: l.outer, key := none }
  return ((l.allowKey true).skip 1).push token

/-- A flow collection ends. -/
def closeFlow (l : Layout) (token : Token) : Option Layout := do
  let l ← l.dropKey
  let l := match l.outer with
    | key :: outer => { l with key := key, outer := outer }
    | [] => l
  return ((l.allowKey false).skip 1).push token

/-- A comma. -/
def flowEntry (l : Layout) : Option Layout := do
  let l ← l.dropKey
  return ((l.allowKey true).skip 1).push .flowEntry

/-- An item of a sequence told by indentation. -/
def blockEntry (l : Layout) : Option Layout := do
  if l.inFlow || ! l.keyAllowed then none
  let l ← (l.openBlock l.place.column .blockSequenceStart).dropKey
  return ((l.allowKey true).skip 1).push .blockEntry

/-- A key with a mark of its own. -/
def explicitKey (l : Layout) : Option Layout := do
  if ! l.inFlow && ! l.keyAllowed then none
  let l ← (l.openBlock l.place.column .blockMappingStart).dropKey
  return ((l.allowKey (! l.inFlow)).skip 1).push .key

/-- A colon. The possible key before it becomes one; without it, an explicit key came before. -/
def value (l : Layout) : Option Layout :=
  match l.key with
  | some key =>
    let column := key.place.column
    let l := if l.begins column then
        { l.insert key.number [.blockMappingStart, .key] with columns := column :: l.columns }
      else l.insert key.number [.key]
    some ((({ l with key := none }.allowKey false).skip 1).push .value)
  | none => do
    if ! l.inFlow && ! l.keyAllowed then none
    let l := l.openBlock l.place.column .blockMappingStart
    return ((l.allowKey (! l.inFlow)).skip 1).push .value

/-- A token that begins a node and may begin a key. -/
def nodeToken (l : Layout) (read : Source → Option (Token × Source)) : Option Layout := do
  let l ← l.saveKey
  let (token, source) ← read (l.source.drop 1)
  return { (l.allowKey false).push token with source := source }

/-- A tag. -/
def tag (l : Layout) : Option Layout := do
  let l ← l.saveKey
  let (tag, source) ← readTag l.source
  return { (l.allowKey false).push (.tag tag) with source := source }

/-- A quoted scalar. -/
def quoted (l : Layout) (single : Bool) : Option Layout := do
  let l ← l.nodeToken fun s => do
    let (text, s) ← readQuoted single (.after .none) s
    return (.scalar text false, s)
  return { l with quotedEnd := some l.place.index }

/-- A block scalar. -/
def block (l : Layout) (literal : Bool) : Option Layout := do
  let l ← l.nodeToken fun s => do
    let (text, s) ← readBlockScalar literal l.columns.head? s
    return (.scalar text false, s)
  return l.allowKey true

/-- A plain scalar. -/
def plain (l : Layout) : Option Layout := do
  let l ← l.saveKey
  let least := match l.columns.head? with
    | some column => column + 1
    | none => 0
  let (text, broken, source) ← readPlain l.inFlow least .none l.source
  return { (l.allowKey broken).push (.scalar text true) with source := source }

/-- Whether the colon that follows separates a key from its value. -/
def isValueMark (l : Layout) : Bool :=
  let after := Source.second l.source
  isGap after || (l.inFlow && (isFlowIndicator after || l.quotedEnd == some l.place.index))

/-- Reads the next token, which is there. -/
def token (l : Layout) : Option Layout :=
  let c := l.char
  let gapAfter := isGap (Source.second l.source)
  if c = '%' ∧ l.place.column = 0 then l.directive
  else if Source.atBoundary '-' l.source then l.boundary .documentStart
  else if Source.atBoundary '.' l.source then l.boundary .documentEnd
  else if c = '[' then l.openFlow .flowSequenceStart
  else if c = '\x7b' then l.openFlow .flowMappingStart
  else if c = ']' then l.closeFlow .flowSequenceEnd
  else if c = '\x7d' then l.closeFlow .flowMappingEnd
  else if c = ',' then l.flowEntry
  else if c = '-' ∧ gapAfter then l.blockEntry
  else if c = '?' ∧ gapAfter then l.explicitKey
  else if c = ':' ∧ l.isValueMark then l.value
  else if c = '*' then l.nodeToken fun s => do
    let (name, s) ← readName s
    return (.alias name, s)
  else if c = '&' then l.nodeToken fun s => do
    let (name, s) ← readName s
    return (.anchor name, s)
  else if c = '!' then l.tag
  else if c = '|' ∧ ! l.inFlow then l.block true
  else if c = '>' ∧ ! l.inFlow then l.block false
  else if c = '\'' then l.quoted true
  else if c = '"' then l.quoted false
  else if c = '%' ∨ c = '@' ∨ c = '\x60' then none
  else l.plain

/-- Reads the remaining tokens, of which there are fewer than `fuel`. -/
def finish : Nat → Layout → Option (List Token)
  | 0, _ => none
  | fuel + 1, l => do
    let l ← l.toToken.dropStale
    if l.char = Source.endChar then
      let l ← l.closeAll.dropKey
      return l.tokens.reverse
    else
      let column := l.place.column
      let l ← (l.closeBlocks (· ≤ column)).token
      finish fuel l

end Layout

/-- The tokens of a document, if it is well-formed as far as tokens go. Every token but those that
the layout adds takes up a character. -/
def tokens? (s : Text) : Option (List Token) :=
  let source := Source.ofText s
  Layout.finish (source.length + 1) { source := source }

end ServerTelemetry.Yaml
