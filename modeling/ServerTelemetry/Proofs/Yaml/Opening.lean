import ServerTelemetry.Yaml.Grammar

/-!
# How a document opens

The first token of a text that is no bracket of a collection stays the first one: what comes later is
put behind it, and only the tokens that begin a mapping or mark a key are ever put in front of it, when
the colon is met that makes a key of it (`OpensWith.token`, `finish_opensWith`). So a text that opens
with a plain scalar has one of two roots: that scalar, or a mapping whose first key is that scalar or
no scalar that is written (`roots_of_opensWith`).
-/

namespace ServerTelemetry.Yaml

/-! ## Tokens -/

/-- A token that is put in front of others once a key is known to be one. -/
def Token.IsMark (token : Token) : Prop :=
  token = .blockMappingStart ∨ token = .key

/-- The tokens open with a plain scalar, in front of which are marks of keys at most. -/
def OpensWith (text : Text) (tokens : List Token) : Prop :=
  ∃ front behind, tokens = front ++ .scalar text true :: behind ∧ ∀ token ∈ front, token.IsMark

variable {text : Text} {tokens : List Token}

theorem OpensWith.append (h : OpensWith text tokens) (more : List Token) :
    OpensWith text (tokens ++ more) := by
  obtain ⟨front, behind, rfl, hfront⟩ := h
  exact ⟨front, behind ++ more, by simp, hfront⟩

/-- Marks may be put anywhere, also in front of the scalar. -/
theorem OpensWith.insert {a b marks : List Token} (h : OpensWith text (a ++ b))
    (hmarks : ∀ token ∈ marks, token.IsMark) : OpensWith text (a ++ marks ++ b) := by
  obtain ⟨front, behind, htokens, hfront⟩ := h
  rcases List.append_eq_append_iff.1 htokens with ⟨rest, rfl, rfl⟩ | ⟨rest, rfl, hbehind⟩
  · -- The marks come in front of the scalar, after some or all of the marks that are there.
    refine ⟨a ++ marks ++ rest, behind, by simp, fun token htoken => ?_⟩
    rcases List.mem_append.1 htoken with htoken | htoken
    · rcases List.mem_append.1 htoken with htoken | htoken
      · exact hfront token (List.mem_append_left _ htoken)
      · exact hmarks token htoken
    · exact hfront token (List.mem_append_right _ htoken)
  · cases rest with
    | nil =>
      obtain rfl : Token.scalar text true :: behind = b := hbehind
      refine ⟨front ++ marks, behind, by simp, fun token htoken => ?_⟩
      rcases List.mem_append.1 htoken with htoken | htoken
      · exact hfront token htoken
      · exact hmarks token htoken
    | cons token rest =>
      obtain ⟨rfl, rfl⟩ := List.cons_eq_cons.1 hbehind
      exact ⟨front, rest ++ marks ++ b, by simp, hfront⟩

namespace Layout

/-- The tokens that have been read open with a plain scalar. -/
def OpensWith (text : Text) (l : Layout) : Prop :=
  Yaml.OpensWith text l.tokens.reverse

variable {l m : Layout}

theorem OpensWith.of_tokens (h : l.OpensWith text) (htokens : m.tokens = l.tokens) :
    m.OpensWith text := by
  rw [OpensWith, htokens]
  exact h

theorem OpensWith.behind (h : l.OpensWith text) (more : List Token)
    (htokens : m.tokens = more ++ l.tokens) : m.OpensWith text := by
  rw [OpensWith, htokens, List.reverse_append]
  exact h.append _

theorem OpensWith.push (h : l.OpensWith text) (token : Token) : (l.push token).OpensWith text :=
  h.behind [token] rfl

theorem OpensWith.insert (h : l.OpensWith text) (number : Nat) {marks : List Token}
    (hmarks : ∀ token ∈ marks, token.IsMark) : (l.insert number marks).OpensWith text := by
  unfold OpensWith Layout.insert
  rw [List.reverse_append, List.reverse_append, List.reverse_reverse, ← List.append_assoc]
  refine Yaml.OpensWith.insert ?_ hmarks
  rw [← List.reverse_append, List.take_append_drop]
  exact h

theorem OpensWith.openBlock (h : l.OpensWith text) (column : Nat) (token : Token) :
    (l.openBlock column token).OpensWith text := by
  unfold Layout.openBlock
  split
  · exact (h.push token).of_tokens rfl
  · exact h

theorem OpensWith.closeBlocks (h : l.OpensWith text) (keep : Nat → Bool) :
    (l.closeBlocks keep).OpensWith text := by
  unfold Layout.closeBlocks
  split
  · exact h
  · exact h.behind _ rfl

/-! ## Steps of the reader -/

theorem OpensWith.dropKey (h : l.OpensWith text) (hm : l.dropKey = some m) : m.OpensWith text := by
  unfold Layout.dropKey at hm
  split at hm
  · cases hm
  · cases hm
    exact h.of_tokens rfl

theorem OpensWith.saveKey (h : l.OpensWith text) (hm : l.saveKey = some m) : m.OpensWith text := by
  unfold Layout.saveKey at hm
  split at hm
  · obtain ⟨k, hk, hm⟩ := Option.bind_eq_some_iff.1 hm
    cases hm
    exact (h.dropKey hk).of_tokens rfl
  · cases hm
    exact h

theorem OpensWith.dropStale (h : l.OpensWith text) (hm : l.dropStale = some m) :
    m.OpensWith text := by
  obtain ⟨key, -, hm⟩ := Option.bind_eq_some_iff.1 hm
  obtain ⟨outer, -, hm⟩ := Option.bind_eq_some_iff.1 hm
  cases hm
  exact h.of_tokens rfl

theorem OpensWith.boundary (h : l.OpensWith text) {token : Token}
    (hm : l.boundary token = some m) : m.OpensWith text := by
  obtain ⟨k, hk, hm⟩ := Option.bind_eq_some_iff.1 hm
  cases hm
  exact OpensWith.push (l := (k.allowKey false).skip 3) (((h.closeBlocks _).dropKey hk).of_tokens rfl) token

theorem OpensWith.directive (h : l.OpensWith text) (hm : l.directive = some m) :
    m.OpensWith text := by
  obtain ⟨k, hk, hm⟩ := Option.bind_eq_some_iff.1 hm
  obtain ⟨source, -, hm⟩ := Option.bind_eq_some_iff.1 hm
  cases hm
  exact ((h.closeBlocks _).dropKey hk).behind [.directive] rfl

theorem OpensWith.openFlow (h : l.OpensWith text) {token : Token}
    (hm : l.openFlow token = some m) : m.OpensWith text := by
  obtain ⟨k, hk, hm⟩ := Option.bind_eq_some_iff.1 hm
  have hkept := h.saveKey hk
  simp only at hm
  split at hm
  · cases hm
  · cases hm
    exact hkept.behind [token] rfl

theorem OpensWith.closeFlow (h : l.OpensWith text) {token : Token}
    (hm : l.closeFlow token = some m) : m.OpensWith text := by
  obtain ⟨k, hk, hm⟩ := Option.bind_eq_some_iff.1 hm
  have hkept := h.dropKey hk
  cases hm
  cases houter : k.outer with
  | nil => exact hkept.behind [token] rfl
  | cons key outer => exact hkept.behind [token] rfl

theorem OpensWith.flowEntry (h : l.OpensWith text) (hm : l.flowEntry = some m) :
    m.OpensWith text := by
  obtain ⟨k, hk, hm⟩ := Option.bind_eq_some_iff.1 hm
  cases hm
  exact (h.dropKey hk).behind [.flowEntry] rfl

theorem OpensWith.blockEntry (h : l.OpensWith text) (hm : l.blockEntry = some m) :
    m.OpensWith text := by
  unfold Layout.blockEntry at hm
  split at hm
  · cases hm
  · obtain ⟨k, hk, hm⟩ := Option.bind_eq_some_iff.1 hm
    cases hm
    exact ((h.openBlock _ _).dropKey hk).behind [.blockEntry] rfl

theorem OpensWith.explicitKey (h : l.OpensWith text) (hm : l.explicitKey = some m) :
    m.OpensWith text := by
  unfold Layout.explicitKey at hm
  split at hm
  · cases hm
  · obtain ⟨k, hk, hm⟩ := Option.bind_eq_some_iff.1 hm
    cases hm
    exact ((h.openBlock _ _).dropKey hk).behind [.key] rfl

/-- A colon alone puts tokens elsewhere than behind the others, and these are marks. -/
theorem OpensWith.value (h : l.OpensWith text) (hm : l.value = some m) : m.OpensWith text := by
  have hmapping : ∀ token ∈ [Token.blockMappingStart, .key], token.IsMark := by
    simp [Token.IsMark]
  have hkey : ∀ token ∈ [Token.key], token.IsMark := by
    simp [Token.IsMark]
  unfold Layout.value at hm
  split at hm
  · next key _ =>
    cases hm
    refine OpensWith.behind (l := if l.begins key.place.column then
      l.insert key.number [.blockMappingStart, .key] else l.insert key.number [.key]) ?_ [.value] ?_
    · split
      · exact h.insert key.number hmapping
      · exact h.insert key.number hkey
    · split <;> rfl
  · split at hm
    · cases hm
    · cases hm
      exact (h.openBlock _ _).behind [.value] rfl

theorem OpensWith.nodeToken (h : l.OpensWith text) {read : Source → Option (Token × Source)}
    (hm : l.nodeToken read = some m) : m.OpensWith text := by
  obtain ⟨k, hk, hm⟩ := Option.bind_eq_some_iff.1 hm
  obtain ⟨⟨token, source⟩, -, hm⟩ := Option.bind_eq_some_iff.1 hm
  cases hm
  exact (h.saveKey hk).behind [token] rfl

theorem OpensWith.tag (h : l.OpensWith text) (hm : l.tag = some m) : m.OpensWith text := by
  obtain ⟨k, hk, hm⟩ := Option.bind_eq_some_iff.1 hm
  obtain ⟨⟨tag, source⟩, -, hm⟩ := Option.bind_eq_some_iff.1 hm
  cases hm
  exact (h.saveKey hk).behind [.tag tag] rfl

theorem OpensWith.quoted (h : l.OpensWith text) {single : Bool} (hm : l.quoted single = some m) :
    m.OpensWith text := by
  obtain ⟨k, hk, hm⟩ := Option.bind_eq_some_iff.1 hm
  cases hm
  exact (h.nodeToken hk).of_tokens rfl

theorem OpensWith.block (h : l.OpensWith text) {literal : Bool} (hm : l.block literal = some m) :
    m.OpensWith text := by
  obtain ⟨k, hk, hm⟩ := Option.bind_eq_some_iff.1 hm
  cases hm
  exact (h.nodeToken hk).of_tokens rfl

theorem OpensWith.plain (h : l.OpensWith text) (hm : l.plain = some m) : m.OpensWith text := by
  obtain ⟨k, hk, hm⟩ := Option.bind_eq_some_iff.1 hm
  obtain ⟨⟨scalar, broken, source⟩, -, hm⟩ := Option.bind_eq_some_iff.1 hm
  cases hm
  exact (h.saveKey hk).behind [.scalar scalar true] rfl

theorem of_ite_eq {α : Type} {c p : Prop} [Decidable c] {x y z : α} (h : (if c then x else y) = z)
    (hx : x = z → p) (hy : y = z → p) : p := by
  split at h
  · exact hx h
  · exact hy h

/-- **No token displaces the first one.** -/
theorem OpensWith.token (h : l.OpensWith text) (hm : l.token = some m) : m.OpensWith text := by
  unfold Layout.token at hm
  refine of_ite_eq hm h.directive fun hm => ?_
  refine of_ite_eq hm h.boundary fun hm => ?_
  refine of_ite_eq hm h.boundary fun hm => ?_
  refine of_ite_eq hm h.openFlow fun hm => ?_
  refine of_ite_eq hm h.openFlow fun hm => ?_
  refine of_ite_eq hm h.closeFlow fun hm => ?_
  refine of_ite_eq hm h.closeFlow fun hm => ?_
  refine of_ite_eq hm h.flowEntry fun hm => ?_
  refine of_ite_eq hm h.blockEntry fun hm => ?_
  refine of_ite_eq hm h.explicitKey fun hm => ?_
  refine of_ite_eq hm h.value fun hm => ?_
  refine of_ite_eq hm h.nodeToken fun hm => ?_
  refine of_ite_eq hm h.nodeToken fun hm => ?_
  refine of_ite_eq hm h.tag fun hm => ?_
  refine of_ite_eq hm h.block fun hm => ?_
  refine of_ite_eq hm h.block fun hm => ?_
  refine of_ite_eq hm h.quoted fun hm => ?_
  refine of_ite_eq hm h.quoted fun hm => ?_
  exact of_ite_eq hm nofun h.plain

theorem finish_opensWith {fuel : Nat} (h : l.OpensWith text) {tokens : List Token}
    (hread : finish fuel l = some tokens) : Yaml.OpensWith text tokens := by
  induction fuel generalizing l with
  | zero => cases hread
  | succ fuel ih =>
    obtain ⟨k, hk, hread⟩ := Option.bind_eq_some_iff.1 hread
    have hkept : k.OpensWith text := (h.of_tokens (m := l.toToken) rfl).dropStale hk
    simp only at hread
    split at hread
    · obtain ⟨last, hlast, hread⟩ := Option.bind_eq_some_iff.1 hread
      cases hread
      exact (hkept.closeBlocks _).dropKey hlast
    · obtain ⟨next, hnext, hread⟩ := Option.bind_eq_some_iff.1 hread
      exact ih ((hkept.closeBlocks _).token hnext) hread

end Layout

/-! ## Roots -/

/-- Where a key is not written, or is more than a scalar, no scalar is the key. -/
def IsFirstKey (text : Text) (key : Node) : Prop :=
  key = .scalar text true none ∨ key = .missing ∨ ∃ entries, key = .mapping entries

variable {steps : Nat} {r r' : Reading}

theorem readNode_scalar {behind : List Token} {indentless : Bool} {node : Node}
    (htokens : r.tokens = .scalar text true :: behind)
    (h : readNode steps true indentless r = some (node, r')) : node = .scalar text true none := by
  obtain ⟨tokens, names, named, next⟩ := r
  obtain rfl : tokens = _ := htokens
  match steps with
  | 0 | 1 => cases h
  | steps + 2 =>
    obtain ⟨rfl, -⟩ := Prod.mk.inj (Option.some.inj h)
    rfl

theorem readNode_mapping {behind : List Token} {indentless : Bool} {node : Node}
    (htokens : r.tokens = .blockMappingStart :: behind)
    (h : readNode steps true indentless r = some (node, r')) :
    ∃ entries, node = .mapping entries ∧
      ∃ steps', readBlockEntries steps' { r with tokens := behind } = some (entries, r') := by
  obtain ⟨tokens, names, named, next⟩ := r
  obtain rfl : tokens = _ := htokens
  match steps with
  | 0 | 1 => cases h
  | steps + 2 =>
    change (readContent (steps + 1) true indentless none false
      ⟨.blockMappingStart :: behind, names, named, next⟩).bind (fun found => some found) = _ at h
    obtain ⟨⟨content, r''⟩, hcontent, h⟩ := Option.bind_eq_some_iff.1 h
    change (readBlockEntries steps ⟨behind, names, named, next⟩).bind
      (fun found => some (Node.mapping found.1, found.2)) = _ at hcontent
    obtain ⟨⟨entries, r''⟩, hentries, hcontent⟩ := Option.bind_eq_some_iff.1 hcontent
    cases hcontent
    cases h
    exact ⟨entries, rfl, steps, hentries⟩

theorem readNode_key {behind : List Token} {indentless : Bool} {node : Node}
    (htokens : r.tokens = .key :: behind) :
    readNode steps true indentless r ≠ some (node, r') := by
  obtain ⟨tokens, names, named, next⟩ := r
  obtain rfl : tokens = _ := htokens
  match steps with
  | 0 | 1 | steps + 2 => exact nofun

theorem bind_eq_some_iff {α β : Type} {x : Rule α} {f : α → Rule β} {b : β} :
    (x >>= f) r = some (b, r') ↔ ∃ a m, x r = some (a, m) ∧ f a m = some (b, r') := by
  change (x r).bind (fun found => f found.1 found.2) = _ ↔ _
  rw [Option.bind_eq_some_iff]
  exact Prod.exists

theorem isNext_eq (tokens : List Token) (r : Reading) :
    Rule.isNext tokens r = some (r.tokens.head?.any tokens.contains, r) := by
  obtain ⟨_ | ⟨token, rest⟩, names, named, next⟩ := r
  · rfl
  · rfl

/-- Behind the mark of a key there is the scalar, a key that is left out, or a mapping. -/
theorem readOptional_opensWith {key : Node} (h : OpensWith text r.tokens)
    (hread : readOptional steps true true [.key, .value, .blockEnd] r = some (key, r')) :
    IsFirstKey text key := by
  obtain ⟨front, behind, htokens, hfront⟩ := h
  match steps with
  | 0 => cases hread
  | steps + 1 =>
    obtain ⟨_, _, hnext, hread⟩ := bind_eq_some_iff.1 hread
    rw [isNext_eq, htokens] at hnext
    cases hnext
    cases front with
    | nil => exact Or.inl (readNode_scalar htokens hread)
    | cons token front =>
      rcases hfront token List.mem_cons_self with rfl | rfl
      · obtain ⟨entries, hkey, -⟩ := readNode_mapping htokens hread
        exact Or.inr (Or.inr ⟨entries, hkey⟩)
      · cases hread
        exact Or.inr (Or.inl rfl)

/-- A mapping that begins in front of the scalar has a first key, and no other scalar is written as
that key. -/
theorem readBlockEntries_opensWith {entries : List (Node × Node)} (h : OpensWith text r.tokens)
    (hread : readBlockEntries steps r = some (entries, r')) :
    ∃ key value more, entries = (key, value) :: more ∧ IsFirstKey text key := by
  obtain ⟨tokens, names, named, next⟩ := r
  obtain ⟨front, behind, htokens, hfront⟩ := h
  obtain rfl : tokens = _ := htokens
  match steps, front with
  | 0, _ => cases hread
  | steps + 1, [] => cases hread
  | steps + 1, token :: front =>
    rcases hfront token List.mem_cons_self with rfl | rfl
    · cases hread
    · have hrest : OpensWith text (front ++ .scalar text true :: behind) :=
        ⟨front, behind, rfl, fun token htoken => hfront token (List.mem_cons_of_mem _ htoken)⟩
      unfold readBlockEntries at hread
      -- The mapping does not end here; the mark of its first key is next.
      obtain ⟨_, _, hend, hread⟩ := bind_eq_some_iff.1 hread
      cases hend
      obtain ⟨_, _, hmark, hread⟩ := bind_eq_some_iff.1 hread
      cases hmark
      obtain ⟨_, _, hnext, hread⟩ := bind_eq_some_iff.1 hread
      rw [isNext_eq] at hnext
      cases hnext
      obtain ⟨key, _, hkey, hread⟩ := bind_eq_some_iff.1 hread
      have hfirst := readOptional_opensWith (r := ⟨_, names, named, next⟩) hrest hkey
      obtain ⟨marked, _, -, hread⟩ := bind_eq_some_iff.1 hread
      cases marked with
      | false =>
        obtain ⟨value, _, -, hread⟩ := bind_eq_some_iff.1 hread
        obtain ⟨more, _, -, hread⟩ := bind_eq_some_iff.1 hread
        cases hread
        exact ⟨key, value, more, rfl, hfirst⟩
      | true =>
        obtain ⟨value, _, -, hread⟩ := bind_eq_some_iff.1 hread
        obtain ⟨more, _, -, hread⟩ := bind_eq_some_iff.1 hread
        cases hread
        exact ⟨key, value, more, rfl, hfirst⟩

/-- The node that tokens open with is the scalar, or a mapping with a first key. -/
theorem readNode_opensWith {indentless : Bool} {node : Node} (h : OpensWith text r.tokens)
    (hread : readNode steps true indentless r = some (node, r')) :
    node = .scalar text true none ∨ ∃ key value entries,
      node = .mapping ((key, value) :: entries) ∧ IsFirstKey text key := by
  obtain ⟨front, behind, htokens, hfront⟩ := h
  cases front with
  | nil => exact Or.inl (readNode_scalar htokens hread)
  | cons token front =>
    rcases hfront token List.mem_cons_self with rfl | rfl
    · obtain ⟨entries, rfl, steps, hentries⟩ := readNode_mapping htokens hread
      have hrest : OpensWith text (front ++ .scalar text true :: behind) :=
        ⟨front, behind, rfl, fun token htoken => hfront token (List.mem_cons_of_mem _ htoken)⟩
      obtain ⟨key, value, more, rfl, hkey⟩ :=
        readBlockEntries_opensWith (r := { r with tokens := _ }) hrest hentries
      exact Or.inr ⟨key, value, more, rfl, hkey⟩
    · exact absurd hread (readNode_key htokens)

/-- **The root of a document that opens with a plain scalar** is that scalar, or a mapping whose first
key is no other scalar that is written. -/
theorem roots_of_opensWith {documents : Documents} (h : OpensWith text tokens)
    (hread : Documents.ofTokens? tokens = some documents) :
    ∃ root more, documents.roots = root :: more ∧
      (root = .scalar text true none ∨ ∃ key value entries,
        root = .mapping ((key, value) :: entries) ∧ IsFirstKey text key) := by
  obtain ⟨⟨roots, reading⟩, hroots, hread⟩ := Option.bind_eq_some_iff.1 hread
  cases hread
  obtain ⟨token, rest, rfl, hstart⟩ : ∃ token rest, tokens = token :: rest ∧
      token ≠ .directive ∧ token ≠ .documentStart := by
    obtain ⟨front, behind, rfl, hfront⟩ := h
    cases front with
    | nil => exact ⟨_, _, rfl, nofun, nofun⟩
    | cons token front =>
      rcases hfront token List.mem_cons_self with rfl | rfl
      · exact ⟨_, _, rfl, nofun, nofun⟩
      · exact ⟨_, _, rfl, nofun, nofun⟩
  unfold readDocuments at hroots
  obtain ⟨_, _, hpeek, hroots⟩ := bind_eq_some_iff.1 hroots
  cases hpeek
  obtain ⟨_, _, hnames, hroots⟩ := bind_eq_some_iff.1 hroots
  cases hnames
  rw [if_pos ⟨rfl, hstart⟩] at hroots
  obtain ⟨root, _, hroot, hroots⟩ := bind_eq_some_iff.1 hroots
  obtain ⟨_, _, -, hroots⟩ := bind_eq_some_iff.1 hroots
  obtain ⟨more, _, -, hroots⟩ := bind_eq_some_iff.1 hroots
  cases hroots
  exact ⟨root, more, rfl, readNode_opensWith (r := ⟨token :: rest, _, _, _⟩) h hroot⟩

end ServerTelemetry.Yaml
