import Mathlib.Data.List.ReduceOption
import ServerTelemetry.Http.Header
import ServerTelemetry.Proofs.Extractor.Grouping
import ServerTelemetry.Proofs.Forwarded.Node
import ServerTelemetry.Proofs.Forwarded.Parameters
import ServerTelemetry.Proofs.Http.Authority

/-!
# Quoted strings in a value

`Field` is the grammar of `Forwarded` in RFC 7239: elements of pairs, each a name with a token or a
quoted string. A field is read pair by pair (`Field.directive?_text`), and a pair that has the name
asked for answers with its value, so what is read is the value of the first parameter of that name as
long as no parameter in front of it has a quoted string with a piece that looks like one
(`Opaque`). Where there is such a piece, it is taken instead (`Field.opaque_directives`).
-/

namespace ServerTelemetry.Forwarded

open Text

variable {sep : Char} {name s t : Text}

/-! ## The grammar -/

/-- The characters that may stand between quotes, some of them escaped. -/
def isFieldChar (c : Char) : Bool :=
  c == '\t' || (32 ≤ c.toNat && c.toNat != 127)

/-- The characters that stand between quotes as they are. -/
def isPlainChar (c : Char) : Bool :=
  isFieldChar c && c != '"' && c != '\\'

/-- A character between quotes; a quote and a backslash are escaped, others may be. -/
structure QuotedChar where
  char : Char
  escaped : Bool
  allowed : (if escaped then isFieldChar char else isPlainChar char) = true

def QuotedChar.text (c : QuotedChar) : Text :=
  if c.escaped then ['\\', c.char] else [c.char]

structure Token where
  text : Text
  isToken : Http.isToken text = true

inductive ParameterValue where
  | token (t : Token)
  | quoted (chars : List QuotedChar)

/-- The value without the quotes around it; escapes stand as they are written. -/
def ParameterValue.inner : ParameterValue → Text
  | token t => t.text
  | quoted chars => chars.flatMap QuotedChar.text

def ParameterValue.text : ParameterValue → Text
  | token t => t.text
  | quoted chars => '"' :: chars.flatMap QuotedChar.text ++ ['"']

/-- The quoted string of a text that needs no escapes. -/
def ParameterValue.quote (s : Text) (h : s.all isPlainChar = true) : ParameterValue :=
  .quoted (s.attach.map fun c : { c // c ∈ s } => {
    char := c.1
    escaped := false
    allowed := List.all_eq_true.1 h c.1 c.2 })

structure Parameter where
  name : Token
  value : ParameterValue

def Parameter.text (p : Parameter) : Text :=
  p.name.text ++ '=' :: p.value.text

/-- The parameters of one hop, with spaces around them. A place between semicolons may be empty. -/
structure Element where
  before : Text
  slots : List (Option Parameter)
  after : Text
  spaces : ∀ c ∈ before ++ after, c = ' ' ∨ c = '\t'

def Element.text (e : Element) : Text :=
  e.before ++ join [';'] (e.slots.map fun slot => slot.elim [] Parameter.text) ++ e.after

/-- A value of `Forwarded`. -/
structure Field where
  elements : List Element

def Field.text (f : Field) : Text :=
  join [','] (f.elements.map Element.text)

def Field.parameters (f : Field) : List Parameter :=
  f.elements.flatMap fun e => e.slots.reduceOption

/-! ## Tokens -/

theorem isBlank_of_isTokenChar {c : Char} (h : Http.isTokenChar c = true) : isBlank c = false := by
  have hmarks : "!#$%&'*+-.^_|~\x60".toList.all (! isBlank ·) = true := by decide
  rw [Http.isTokenChar, Bool.or_eq_true, List.contains_iff_mem] at h
  rcases h with h | h
  · have hrange := Http.Authority.isAlphanum_toNat h
    simp [isBlank]
    omega
  · simpa using List.all_eq_true.1 hmarks c h

theorem Token.isTokenChar (t : Token) : ∀ c ∈ t.text, Http.isTokenChar c = true := by
  have h := t.isToken
  rw [Http.isToken, Bool.and_eq_true] at h
  exact List.all_eq_true.1 h.2

theorem Token.notMem (t : Token) {c : Char} (hc : Http.isTokenChar c = false) : c ∉ t.text :=
  fun h => absurd (hc.symm.trans (t.isTokenChar c h)) (by decide)

theorem Token.whole (t : Token) : Whole t.text :=
  whole_iff.2 ⟨t.notMem (by decide), t.notMem (by decide)⟩

theorem Token.trim_eq (t : Token) : trim t.text = t.text :=
  trim_eq_self fun c hc => isBlank_of_isTokenChar (t.isTokenChar c hc)

/-! ## A field is read pair by pair -/

theorem findSome?_cons_or {α : Type} (f : α → Option Text) (a : α) (l : List α) :
    (a :: l).findSome? f = (f a).or (l.findSome? f) := by
  rw [List.findSome?_cons]
  cases f a <;> rfl

theorem directive?_join (hsep : isSeparator sep = true) (name : Text) (texts : List Text) :
    directive? name (join [sep] texts) = texts.findSome? (directive? name) := by
  induction texts with
  | nil => rfl
  | cons s texts ih =>
    cases texts with
    | nil => simp [join]
    | cons t texts =>
      have hjoin : join [sep] (s :: t :: texts) = s ++ sep :: join [sep] (t :: texts) := by
        simp [join]
      rw [hjoin, directive?_append hsep, ih, findSome?_cons_or _ s]

theorem Element.directive?_text (e : Element) (name : Text) :
    directive? name e.text = e.slots.reduceOption.findSome? fun p => directive? name p.text := by
  have hspaces : blank e.before = true ∧ blank e.after = true := by
    simp only [blank_iff, ← List.forall_mem_append]
    intro c hc
    rcases e.spaces c hc with rfl | rfl <;> rfl
  have hentries : ∀ s, entries (e.before ++ s ++ e.after) = entries s := fun s => by
    rw [entries_append_blank hspaces.2, entries_blank_append hspaces.1]
  rw [Element.text, directive?_congr name (hentries _), directive?_join (by decide)]
  induction e.slots with
  | nil => rfl
  | cons slot slots ih =>
    rw [List.map_cons, findSome?_cons_or, ih]
    cases slot with
    | none => rw [List.reduceOption_cons_of_none]; rfl
    | some p => rw [List.reduceOption_cons_of_some, findSome?_cons_or]; rfl

theorem Field.directive?_text (f : Field) (name : Text) :
    directive? name f.text = f.parameters.findSome? fun p => directive? name p.text := by
  rw [Field.text, directive?_join (by decide), Field.parameters]
  induction f.elements with
  | nil => rfl
  | cons e elements ih =>
    rw [List.map_cons, findSome?_cons_or, e.directive?_text, ih, List.flatMap_cons,
      List.findSome?_append]

/-! ## What one parameter answers -/

theorem parameters_append_of_whole (hs : Whole s) (t : Text) :
    ∃ first rest, parameters t = first :: rest ∧ parameters (s ++ t) = (s ++ first) :: rest := by
  induction t using separated_induction with
  | whole t ht =>
    exact ⟨t, [], parameters_of_whole ht, parameters_of_whole (whole_append.2 ⟨hs, ht⟩)⟩
  | append pair sep rest hpair hsep _ =>
    refine ⟨pair, parameters rest, ?_, ?_⟩
    · rw [parameters_append hsep, parameters_of_whole hpair, List.singleton_append]
    · rw [← List.append_assoc, parameters_append hsep,
        parameters_of_whole (whole_append.2 ⟨hs, hpair⟩), List.singleton_append]

namespace Parameter

def hasName (p : Parameter) (name : Text) : Bool :=
  sameLetters p.name.text name

/-- The pieces of a value behind its first separator: there are some only between quotes. -/
def fragments (p : Parameter) : List Text :=
  (Forwarded.parameters p.value.text).tail

variable {p : Parameter}

theorem parameters_text (p : Parameter) :
    ∃ first, Forwarded.parameters p.text = (p.name.text ++ '=' :: first) :: p.fragments := by
  have hkey : Whole (p.name.text ++ ['=']) := whole_append.2 ⟨p.name.whole, by decide⟩
  obtain ⟨first, rest, hvalue, htext⟩ := parameters_append_of_whole hkey p.value.text
  refine ⟨first, ?_⟩
  rw [fragments, hvalue, List.tail_cons, text]
  simpa using htext

theorem spells_iff : Spells name p.name.text ↔ p.hasName name = true := by
  constructor
  · intro h
    have hsame := h.same
    rwa [p.name.trim_eq] at hsame
  · intro h
    refine ⟨p.name.notMem (by decide), ?_⟩
    rwa [p.name.trim_eq]

theorem parameter?_eq (h : p.hasName name = false) (value : Text) :
    parameter? name (p.name.text ++ '=' :: value) = none := by
  rw [parameter?_eq_none_iff]
  rintro ⟨key, value', heq, hkey⟩
  have hcut := cut_append (b := value) (p.name.notMem (c := '=') (by decide))
  rw [heq, cut_append hkey.notMem] at hcut
  obtain ⟨rfl, -⟩ := Prod.mk.inj (Option.some.inj hcut)
  exact absurd (h.symm.trans (spells_iff.1 hkey)) (by decide)

/-- A parameter that does not have the name answers only with a piece of its quoted string. -/
theorem directive?_text_of_other (h : p.hasName name = false) :
    directive? name p.text = p.fragments.findSome? (parameter? name) := by
  obtain ⟨first, htext⟩ := p.parameters_text
  rw [directive?, htext, findSome?_cons_or, parameter?_eq h, Option.none_or]

theorem directive?_text_isSome (h : p.hasName name = true) :
    (directive? name p.text).isSome = true := by
  obtain ⟨first, htext⟩ := p.parameters_text
  rw [directive?, htext, findSome?_cons_or, parameter?_append (spells_iff.2 h)]
  rfl

theorem directive?_text_of_whole (h : p.hasName name = true) (hvalue : Whole p.value.text) :
    directive? name p.text = some (trim p.value.text) := by
  have hwhole : Whole p.text := whole_append.2 ⟨p.name.whole, List.forall_mem_cons.2 ⟨rfl, hvalue⟩⟩
  rw [directive?_of_whole hwhole, Parameter.text, parameter?_append (spells_iff.2 h)]

theorem fragments_of_token {t : Token} (h : p.value = .token t) : p.fragments = [] := by
  rw [fragments, h, ParameterValue.text, parameters_of_whole t.whole, List.tail_cons]

end Parameter

/-! ## What a field answers -/

/-- No parameter in front of the first one with the name has, inside its quotes, a piece that looks
like a parameter with that name. -/
def Opaque (name : Text) (parameters : List Parameter) : Prop :=
  ∀ p ∈ parameters.takeWhile (! ·.hasName name), ∀ fragment ∈ p.fragments, ¬ Named name fragment

instance (name : Text) (parameters : List Parameter) : Decidable (Opaque name parameters) :=
  inferInstanceAs (Decidable (∀ p ∈ parameters.takeWhile (! ·.hasName name),
    ∀ fragment ∈ p.fragments, ¬ Named name fragment))

section

variable {p : Parameter} {parameters : List Parameter}

theorem opaque_cons_of_name (h : p.hasName name = true) : Opaque name (p :: parameters) := by
  simp [Opaque, h]

theorem opaque_cons_of_other (h : p.hasName name = false) :
    Opaque name (p :: parameters) ↔ directive? name p.text = none ∧ Opaque name parameters := by
  rw [Opaque, List.takeWhile_cons_of_pos (by simp [h]), List.forall_mem_cons, Opaque,
    Parameter.directive?_text_of_other h, List.findSome?_eq_none_iff]
  simp only [parameter?_eq_none_iff]

theorem findSome?_of_opaque (h : Opaque name parameters) :
    parameters.findSome? (fun p => directive? name p.text) =
      (parameters.find? (·.hasName name)).bind fun p => directive? name p.text := by
  induction parameters with
  | nil => rfl
  | cons p parameters ih =>
    rw [findSome?_cons_or, List.find?_cons]
    cases hname : p.hasName name with
    | true => rw [Option.or_of_isSome (Parameter.directive?_text_isSome hname)]; rfl
    | false =>
      obtain ⟨hp, hparameters⟩ := (opaque_cons_of_other hname).1 h
      rw [hp, Option.none_or, ih hparameters]

/-- Without opacity a directive is taken from inside another parameter's quotes. -/
theorem findSome?_of_not_opaque (h : ¬ Opaque name parameters) :
    ∃ p ∈ parameters, p.hasName name = false ∧ (∃ chars, p.value = .quoted chars) ∧
      ∃ fragment ∈ p.fragments, Named name fragment ∧
        parameters.findSome? (fun p => directive? name p.text) = parameter? name fragment := by
  induction parameters with
  | nil => exact absurd (by simp [Opaque]) h
  | cons p parameters ih =>
    rw [findSome?_cons_or]
    cases hname : p.hasName name with
    | true => exact absurd (opaque_cons_of_name hname) h
    | false =>
      rw [opaque_cons_of_other hname, not_and] at h
      cases hp : directive? name p.text with
      | none =>
        obtain ⟨q, hq, hread⟩ := ih (h hp)
        exact ⟨q, List.mem_cons_of_mem _ hq, hread⟩
      | some s =>
        rw [Parameter.directive?_text_of_other hname] at hp
        obtain ⟨fragment, hmem, hs⟩ := List.exists_of_findSome?_eq_some hp
        refine ⟨p, List.mem_cons_self, hname, ?_, fragment, hmem, ?_, hs.symm⟩
        · cases hvalue : p.value with
          | token t => rw [Parameter.fragments_of_token hvalue] at hmem; cases hmem
          | quoted chars => exact ⟨chars, rfl⟩
        · obtain ⟨key, value, rfl, hkey, -⟩ := parameter?_eq_some_iff.1 hs
          exact ⟨key, value, rfl, hkey⟩

end

/-! ## What is left of a value -/

theorem ParameterValue.bareNode_text {v : ParameterValue} (h : '"' ∉ v.inner) :
    bareNode v.text = trim v.inner := by
  cases v with
  | token t => exact bareNode_of_notMem h
  | quoted chars =>
    have htrim : trim (quoted chars).text = (quoted chars).text :=
      strip_eq_self_iff.2 (bareEnds_around (a := ['"']) (by decide) (by decide) (by simp) (by simp) _)
    have hunquote : unquote (quoted chars).text = unquote (quoted chars).inner := by
      rw [text, inner, unquote_eq, strip_append_right (by simp [isQuote])]
      exact strip_append_left (a := ['"']) (by simp [isQuote])
    rw [bareNode, htrim, hunquote, unquote_of_notMem h]

theorem ParameterValue.whole_text {v : ParameterValue} (h : Whole v.inner) : Whole v.text := by
  cases v with
  | token t => exact h
  | quoted chars => exact List.forall_mem_cons.2 ⟨rfl, whole_append.2 ⟨h, by decide⟩⟩

theorem ParameterValue.address?_text {v : ParameterValue} (h : '"' ∉ v.inner) :
    address? v.text = address? v.inner := by
  simp only [address?, bareNode_text h, bareNode_of_notMem h]

/-! ## What is read of a field -/

namespace Field

/-- The first parameter with a name. -/
def first? (f : Field) (name : Text) : Option Parameter :=
  f.parameters.find? (·.hasName name)

/-- What is read from the field is read from its first parameter with the name: from the text
without quotes, unless there is a separator or an escaped quote in it. -/
structure ReadsFirst (f : Field) (name : Text) (read clean : Text → Option Text) : Prop where
  absent : f.first? name = none → read f.text = none
  own : ∀ p, f.first? name = some p → read f.text = read p.text
  value : ∀ p, f.first? name = some p → Whole p.value.inner → '"' ∉ p.value.inner →
    read f.text = clean p.value.inner

theorem readsFirst {f : Field} {read clean finish : Text → Option Text}
    (hread : ∀ value, read value = (directive? name value).bind finish)
    (hclean : ∀ v : ParameterValue, '"' ∉ v.inner → finish (trim v.text) = clean v.inner)
    (h : Opaque name f.parameters) : f.ReadsFirst name read clean := by
  have hfield : directive? name f.text = (f.first? name).bind fun p => directive? name p.text := by
    rw [f.directive?_text, findSome?_of_opaque h, first?]
  have hown : ∀ p, f.first? name = some p → read f.text = read p.text := by
    intro p hp
    rw [hread, hfield, hp, Option.bind_some, ← hread]
  refine ⟨fun hnone => ?_, hown, fun p hp hwhole hquote => ?_⟩
  · rw [hread, hfield, hnone]
    rfl
  · have hname : p.hasName name = true := by simpa using List.find?_some hp
    rw [hown p hp, hread, Parameter.directive?_text_of_whole hname (p.value.whole_text hwhole),
      Option.bind_some, hclean p.value hquote]

/-- **What a field says is what its first parameter with the name says**, if no parameter in front of
it hides one inside its quotes; otherwise the hidden one is taken. -/
theorem opaque_directives (f : Field) :
    (Opaque "proto".toList f.parameters →
      f.ReadsFirst "proto".toList scheme? fun inner => nonEmpty? (trim inner)) ∧
    (Opaque "for".toList f.parameters → f.ReadsFirst "for".toList client? address?) ∧
    ∀ name, ¬ Opaque name f.parameters →
      ∃ p ∈ f.parameters, p.hasName name = false ∧ (∃ chars, p.value = .quoted chars) ∧
        ∃ fragment ∈ p.fragments, Named name fragment ∧
          directive? name f.text = parameter? name fragment := by
  refine ⟨readsFirst (fun _ => rfl) fun v hv => ?_, readsFirst (fun _ => rfl) fun v hv => ?_, ?_⟩
  · show nonEmpty? (bareNode v.text) = _
    rw [v.bareNode_text hv]
  · rw [address?_trim, v.address?_text hv]
  · intro name h
    rw [f.directive?_text]
    exact findSome?_of_not_opaque h

/-- Separators between quotes do no harm as long as nothing between them has the name asked for. -/
theorem opaque_directives_harmless :
    let f : Field := ⟨[
      ⟨[], [some ⟨⟨"by".toList, rfl⟩, .quote "a, b;c=d".toList (by decide)⟩, none,
        some ⟨⟨"Proto".toList, rfl⟩, .quote " https ".toList (by decide)⟩], [], by simp⟩,
      ⟨[' '], [some ⟨⟨"for".toList, rfl⟩, .quote "[::1]:80".toList (by decide)⟩], [], by simp⟩]⟩
    f.text = "by=\"a, b;c=d\";;Proto=\" https \", for=\"[::1]:80\"".toList ∧
      Opaque "proto".toList f.parameters ∧ Opaque "for".toList f.parameters ∧
      scheme? f.text = some "https".toList ∧ client? f.text = some "::1".toList := by
  intro f
  have hproto : Opaque "proto".toList f.parameters := by decide
  have hfor : Opaque "for".toList f.parameters := by decide
  obtain ⟨hscheme, hclient, -⟩ := opaque_directives f
  have hread := (hscheme hproto).value _ rfl (by decide) (by decide)
  have hread' := (hclient hfor).value _ rfl (by decide) (by decide)
  exact ⟨by decide, hproto, hfor, hread.trans (by decide), hread'.trans (by decide)⟩

/-- The scheme that is read here stands between the quotes of another parameter. -/
theorem hidden_directive_taken :
    let f : Field := ⟨[
      ⟨[], [some ⟨⟨"for".toList, rfl⟩, .quote "a;proto=evil".toList (by decide)⟩,
        some ⟨⟨"proto".toList, rfl⟩, .token ⟨"https".toList, rfl⟩⟩], [], by simp⟩]⟩
    f.text = "for=\"a;proto=evil\";proto=https".toList ∧
      (f.first? "proto".toList).map (·.value.inner) = some "https".toList ∧
      scheme? f.text = some "evil".toList := by
  decide

end Field

end ServerTelemetry.Forwarded
