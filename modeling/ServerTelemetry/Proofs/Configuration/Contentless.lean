import ServerTelemetry.Configuration.Document
import ServerTelemetry.Proofs.Yaml.Opening

/-!
# Documents without content

A text of blanks alone is the default configuration. A text that has comments as well holds no more,
but it is handed to the reader of documents, which answers that there is no document
(`ofText_of_margins`). The blanks that a document may have in front of the first word of a line are the
space and the line ends. At any other blank there the reader takes it that a scalar begins, be it in
front of a comment (`opens_of_contentless`); such a scalar is no configuration and names no section of
one (`decode_of_opening`). So of the texts without content those with comments are refused
(`contentless_read`).
-/

namespace ServerTelemetry

open Text Yaml

/-- A text of comments and of the blanks that `p` tells. A comment begins with a number sign and goes
on to the end of its line. -/
inductive Contentless (p : Char → Bool) : Text → Prop
  | nil : Contentless p []
  | blank {c : Char} {s : Text} (hc : p c = true) (hs : Contentless p s) : Contentless p (c :: s)
  | comment {body s : Text} (hbody : ∀ c ∈ body, isBreak c = false)
    (hend : ∀ c ∈ s.head?, isBreak c = true) (hs : Contentless p s) :
    Contentless p ('#' :: body ++ s)

/-- A blank that a document may have in front of the first word of a line. -/
def isMargin (c : Char) : Bool :=
  c == ' ' || isBreak c

theorem ne_of_isBlank {c d : Char} (hc : isBlank c = true) (hd : isBlank d = false) : c ≠ d := by
  rintro rfl
  rw [hc] at hd
  cases hd

theorem isBlank_of_isMargin {c : Char} (hc : isMargin c = true) : isBlank c = true := by
  obtain rfl | rfl | rfl : c = ' ' ∨ c = '\n' ∨ c = '\r' := by
    simpa [isMargin, isBreak] using hc
  all_goals rfl

namespace Yaml

variable {p : Char → Bool} {s : Text}

/-! ## Up to the first token -/

theorem skipBlanks_break {c : Char} (hc : isBreak c = true) (comment : Bool)
    (line column index : Nat) (source : Source) :
    Layout.skipBlanks false true comment (⟨c, line, column, index⟩ :: source) =
      Layout.skipBlanks false true false source := by
  rw [Layout.skipBlanks, if_pos hc, Bool.true_or]

theorem ofTextAt_inside {c : Char} (hend : c ≠ Source.endChar) (hc : isBreak c = false)
    (line column index : Nat) (s : Text) : Source.ofTextAt line column index (c :: s) =
      ⟨c, line, column, index⟩ :: Source.ofTextAt line (column + 1) (index + 1) s := by
  obtain ⟨hfeed, hreturn⟩ : c ≠ '\n' ∧ c ≠ '\r' := by simpa [isBreak] using hc
  rw [Source.ofTextAt, if_neg hend, if_neg hfeed]
  exact fun _ h _ => hreturn h

/-- The reader stops at the end, or at a blank that is no margin; a key may stand there. -/
def StopsAtBlank (p : Char → Bool) (skipped : Bool × Source) : Prop :=
  skipped.1 = true ∧ (Source.char skipped.2 = Source.endChar ∨
    (p (Source.char skipped.2) = true ∧ isMargin (Source.char skipped.2) = false))

theorem stops_at_end (p : Char → Bool) (comment : Bool) (line column index : Nat) :
    StopsAtBlank p
      (Layout.skipBlanks false true comment [⟨Source.endChar, line, column, index⟩]) := by
  cases comment with
  | false => exact ⟨rfl, Or.inl rfl⟩
  | true => exact ⟨rfl, Or.inl rfl⟩

theorem stops_behind_break {c : Char} (hc : isBreak c = true) (comment : Bool)
    (h : ∀ line column index, StopsAtBlank p
      (Layout.skipBlanks false true false (Source.ofTextAt line column index s)))
    (line column index : Nat) : StopsAtBlank p
      (Layout.skipBlanks false true comment (Source.ofTextAt line column index (c :: s))) := by
  obtain rfl | rfl : c = '\n' ∨ c = '\r' := by simpa [isBreak] using hc
  · change StopsAtBlank p (Layout.skipBlanks false true comment
      (⟨'\n', line, column, index⟩ :: Source.ofTextAt (line + 1) 0 (index + 1) s))
    rw [skipBlanks_break rfl]
    exact h _ _ _
  · by_cases hfeed : ∃ more, s = '\n' :: more
    · -- Both characters are one line end, as the second one would be without the first.
      obtain ⟨more, rfl⟩ := hfeed
      have hmore : StopsAtBlank p (Layout.skipBlanks false true false
        (⟨'\n', line, column, index + 1⟩ :: Source.ofTextAt (line + 1) 0 (index + 2) more)) :=
        h line column (index + 1)
      rw [skipBlanks_break rfl] at hmore
      change StopsAtBlank p (Layout.skipBlanks false true comment
        (⟨'\n', line, column, index⟩ :: Source.ofTextAt (line + 1) 0 (index + 2) more))
      rw [skipBlanks_break rfl]
      exact hmore
    · rw [Source.ofTextAt, if_neg (by decide), if_neg (by decide), skipBlanks_break rfl]
      · exact h _ _ _
      · exact fun more _ hs => hfeed ⟨more, hs⟩

theorem stops_behind_comment {body : Text} (hbody : ∀ c ∈ body, isBreak c = false)
    (hend : ∀ c ∈ s.head?, isBreak c = true)
    (h : ∀ comment line column index, (∀ c ∈ s.head?, comment = true → isBreak c = true) →
      StopsAtBlank p
        (Layout.skipBlanks false true comment (Source.ofTextAt line column index s)))
    (line column index : Nat) : StopsAtBlank p
      (Layout.skipBlanks false true true (Source.ofTextAt line column index (body ++ s))) := by
  induction body generalizing column index with
  | nil => exact h true _ _ _ fun c hc _ => hend c hc
  | cons c body ih =>
    by_cases hnull : c = Source.endChar
    · subst hnull
      exact stops_at_end p true line column index
    · have hc := hbody c List.mem_cons_self
      rw [List.cons_append, ofTextAt_inside hnull hc, Layout.skipBlanks,
        if_neg (Bool.eq_false_iff.1 hc), if_pos (by simpa using hnull)]
      exact ih (fun c hc => hbody c (List.mem_cons_of_mem _ hc)) _ _

/-- Inside a comment only its line end can come next. -/
theorem stops_of_contentless (hp : ∀ c, p c = true → isBlank c = true) (h : Contentless p s)
    (comment : Bool) (line column index : Nat)
    (hcomment : ∀ c ∈ s.head?, comment = true → isBreak c = true) :
    StopsAtBlank p
      (Layout.skipBlanks false true comment (Source.ofTextAt line column index s)) := by
  induction h generalizing comment line column index with
  | nil => exact stops_at_end p comment line column index
  | @blank c s hc hs ih =>
    by_cases hbreak : isBreak c = true
    · exact stops_behind_break hbreak comment
        (fun line column index => ih false line column index (by simp)) line column index
    · obtain rfl : comment = false := by
        cases comment with
        | false => rfl
        | true => exact absurd (hcomment c rfl rfl) hbreak
      have hbreak := Bool.eq_false_iff.2 hbreak
      rw [ofTextAt_inside (ne_of_isBlank (hp c hc) rfl) hbreak]
      -- A tab is no blank where a key may stand, and other blanks never are.
      by_cases hspace : c = ' '
      · subst hspace
        exact ih false _ _ _ (by simp)
      · have hnumber : c ≠ '#' := ne_of_isBlank (hp c hc) rfl
        have hmargin : isMargin c = false := by simp [isMargin, hspace, hbreak]
        have hstop : Layout.skipBlanks false true false
            (⟨c, line, column, index⟩ :: Source.ofTextAt line (column + 1) (index + 1) s) =
            (true, ⟨c, line, column, index⟩ :: Source.ofTextAt line (column + 1) (index + 1) s) := by
          simp [Layout.skipBlanks, hbreak, hspace, hnumber]
        rw [hstop]
        exact ⟨rfl, Or.inr ⟨hc, hmargin⟩⟩
  | @comment body s hbody hend hs ih =>
    -- The comment before has gone on to its line end, so a number sign is not inside one.
    obtain rfl : comment = false := by
      cases comment with
      | false => rfl
      | true => exact absurd (hcomment '#' rfl rfl) (by decide)
    rw [List.cons_append, ofTextAt_inside (by decide) (by decide)]
    exact stops_behind_comment hbody hend ih _ _ _

/-! ## Plain scalars behind blanks -/

/-- The gap puts a blank in front of the word that follows it. -/
def Gap.IsBlank (gap : Gap) : Prop :=
  ∃ c s, gap.text = c :: s ∧ isBlank c = true

theorem Gap.IsBlank.addSpace {gap : Gap} (h : gap.IsBlank) (c : Char) :
    (gap.addSpace c).IsBlank := by
  obtain ⟨b, s, hgap, hb⟩ := h
  cases gap with
  | none => cases hgap
  | blanks spaces =>
    obtain rfl : spaces = b :: s := hgap
    exact ⟨b, s ++ [c], rfl, hb⟩
  | lines escaped more => exact ⟨b, s, hgap, hb⟩

theorem Gap.IsBlank.addBreak (gap : Gap) : gap.addBreak.IsBlank := by
  cases gap with
  | none => exact ⟨' ', [], rfl, rfl⟩
  | blanks spaces => exact ⟨' ', [], rfl, rfl⟩
  | lines escaped more => exact ⟨'\n', List.replicate more '\n', rfl, rfl⟩

variable {inFlow broken : Bool} {least : Nat} {gap : Gap} {source rest : Source} {text : Text}

/-- Once there is a blank in front, the scalar begins with it, unless no word follows. -/
theorem readPlain_behind_gap (hgap : gap.IsBlank)
    (h : readPlain inFlow least gap source = some (text, broken, rest)) :
    ∀ c ∈ text.head?, isBlank c = true := by
  induction source generalizing gap with
  | nil =>
    cases h
    simp
  | cons q source ih =>
    unfold readPlain at h
    split at h
    · split at h
      · cases h
      · exact ih (hgap.addSpace q.char) h
    · split at h
      · exact ih (Gap.IsBlank.addBreak gap) h
      · split at h
        · cases h
          simp
        · obtain ⟨b, s, htext, hb⟩ := hgap
          obtain ⟨⟨word, more⟩, -, hword⟩ := Option.map_eq_some_iff.1 h
          obtain ⟨rfl, -⟩ := Prod.mk.inj hword
          rw [htext]
          simpa using hb

/-- A plain scalar that is read from a blank on begins with a blank, unless it is empty. -/
theorem readPlain_at_blank (hblank : isBlank (Source.char source) = true)
    (h : readPlain inFlow least .none source = some (text, broken, rest)) :
    ∀ c ∈ text.head?, isBlank c = true := by
  cases source with
  | nil =>
    cases h
    simp
  | cons q source =>
    have hq : isBlank q.char = true := hblank
    unfold readPlain at h
    split at h
    · split at h
      · cases h
      · have hgap : (Gap.addSpace q.char .none).IsBlank := ⟨q.char, [], rfl, hq⟩
        exact readPlain_behind_gap hgap h
    · split at h
      · exact readPlain_behind_gap (Gap.IsBlank.addBreak .none) h
      · split at h
        · cases h
          simp
        · obtain ⟨⟨word, more⟩, -, hword⟩ := Option.map_eq_some_iff.1 h
          obtain ⟨rfl, -⟩ := Prod.mk.inj hword
          simpa [Gap.text] using hq

/-! ## The tokens -/

/-- At a blank that separates no words, a plain scalar begins. -/
theorem token_at_blank (hblank : isBlank (Source.char source) = true) :
    Layout.token { source := source } = Layout.plain { source := source } := by
  have hne : ∀ d, isBlank d = false → Source.char source ≠ d := fun d => ne_of_isBlank hblank
  have hboundary : ∀ d, isBlank d = false → Source.atBoundary d source = false := by
    intro d hd
    cases source with
    | nil => rfl
    | cons q source =>
      have hq : q.char ≠ d := hne d hd
      simp [Source.atBoundary, hq]
  simp [Layout.token, Layout.char, Layout.inFlow, hboundary, hne, isBlank]

/-- Up to its first token the reader is in no collection and has met no key. -/
theorem finish_from_start {fuel : Nat}
    (hskip : Layout.skipBlanks false true false source = (true, rest)) :
    Layout.finish (fuel + 1) { source := source } =
      if Source.char rest = Source.endChar then some []
      else (Layout.token { source := rest }).bind (Layout.finish fuel) := by
  have htoken : Layout.toToken { source := source } = { source := rest } := by
    simp only [Layout.toToken, Layout.inFlow, List.isEmpty_nil, Bool.not_true, hskip]
  have hstale : Layout.dropStale { source := rest } = some { source := rest } := rfl
  rw [Layout.finish, htoken, hstale]
  rfl

/-- What the tokens are is told by the first character that is neither skipped nor in a comment. -/
theorem tokens_of_contentless (hp : ∀ c, p c = true → isBlank c = true) (h : Contentless p s) :
    ∃ rest fuel, tokens? s =
        (if Source.char rest = Source.endChar then some []
        else (Layout.token { source := rest }).bind (Layout.finish fuel)) ∧
      (Source.char rest = Source.endChar ∨
        (p (Source.char rest) = true ∧ isMargin (Source.char rest) = false)) := by
  obtain ⟨hallowed, hstop⟩ := stops_of_contentless hp h false 0 0 0 (by simp)
  exact ⟨_, _, finish_from_start (Prod.ext hallowed rfl), hstop⟩

theorem plain_opensWith {l : Layout} (hplain : Layout.plain { source := source } = some l) :
    ∃ text broken rest, readPlain false 0 .none source = some (text, broken, rest) ∧
      l.OpensWith text := by
  obtain ⟨⟨text, broken, rest⟩, hread, hplain⟩ := Option.bind_eq_some_iff.1 hplain
  cases hplain
  exact ⟨text, broken, rest, hread, [], [], rfl, nofun⟩

/-- **The first token of a text without content** is a scalar that is empty or begins with a blank,
or there is none. -/
theorem opens_of_contentless (h : Contentless Text.isBlank s) :
    tokens? s = some [] ∨ ∀ tokens, tokens? s = some tokens →
      ∃ text : Text, (∀ c ∈ text.head?, isBlank c = true) ∧ OpensWith text tokens := by
  obtain ⟨rest, fuel, htokens, hstop⟩ := tokens_of_contentless (fun _ hc => hc) h
  rw [htokens]
  rcases hstop with hend | ⟨hblank, -⟩
  · exact Or.inl (if_pos hend)
  · rw [if_neg (ne_of_isBlank hblank rfl), token_at_blank hblank]
    refine Or.inr fun tokens hread => ?_
    obtain ⟨l, hplain, hread⟩ := Option.bind_eq_some_iff.1 hread
    obtain ⟨text, broken, rest, hscalar, hopens⟩ := plain_opensWith hplain
    exact ⟨text, readPlain_at_blank hblank hscalar, Layout.finish_opensWith hopens hread⟩

theorem no_tokens_of_margins (h : Contentless isMargin s) : tokens? s = some [] := by
  obtain ⟨rest, fuel, htokens, hstop⟩ := tokens_of_contentless (fun _ => isBlank_of_isMargin) h
  rcases hstop with hend | ⟨hmargin, hnone⟩
  · rw [htokens, if_pos hend]
  · rw [hmargin] at hnone
    cases hnone

end Yaml

namespace Configuration

variable {s text : Text}

/-- No section has a name that is empty or begins with a blank. -/
theorem no_field_of_blank (h : ∀ c ∈ text.head?, isBlank c = true) :
    rootSection.field? text = none := by
  have hnames : rootSection.names.all (·.head?.any (! isBlank ·)) = true := by decide
  refine List.find?_eq_none.2 fun field hfield hname => ?_
  obtain rfl : field.name = text := by simpa using hname
  have hhead := List.all_eq_true.1 hnames field.name (List.mem_map_of_mem hfield)
  obtain ⟨c, hc, hnot⟩ := (Option.any_eq_true _ _).1 hhead
  rw [h c hc] at hnot
  cases hnot

theorem refuse_isError {α : Type} (expected : Text) (named : Named) (place : Document.Place)
    (node : Node) :
    ∃ e, Document.Decoder.refuse (α := α) expected named place node = .error e := by
  unfold Document.Decoder.refuse
  cases Document.Decoder.content named place node with
  | error e => exact ⟨e, rfl⟩
  | ok content => exact ⟨_, rfl⟩

/-- A scalar is no configuration, and the first key of a mapping has to name a section. -/
theorem decode_of_opening (named : Named) {root : Node}
    (htext : ∀ c ∈ text.head?, isBlank c = true)
    (hroot : root = .scalar text true none ∨ ∃ key value entries,
      root = .mapping ((key, value) :: entries) ∧ IsFirstKey text key) :
    ∃ e, decode named root = .error e := by
  rcases hroot with rfl | ⟨key, value, entries, rfl, hkey⟩
  · exact refuse_isError _ named [] _
  · change ∃ e, rootSection.decodeEntries named [] [] ((key, value) :: entries) {} = .error e
    unfold Document.Section.decodeEntries
    rcases hkey with rfl | rfl | ⟨inner, rfl⟩
    · refine ⟨⟨[], .unknownField text rootSection.names⟩, ?_⟩
      simp only [Document.Decoder.key, bind, Except.bind, no_field_of_blank htext]
      rfl
    · exact ⟨⟨[], .unknownField ['~'] rootSection.names⟩, rfl⟩
    · obtain ⟨e, he⟩ := refuse_isError (α := Text × Document.PlaceStep) "field identifier".toList
        named [] (.mapping inner)
      refine ⟨e, ?_⟩
      change Except.bind (Document.Decoder.refuse _ named [] (.mapping inner)) _ = _
      rw [he]
      rfl

theorem ofText_of_read (hblank : s.blank = false) {documents : Documents}
    (hread : Documents.read? s = some documents) (hroots : documents.roots = []) :
    ofText s = .error .absent := by
  obtain ⟨roots, named⟩ := documents
  obtain rfl : roots = [] := hroots
  simp only [ofText, hblank, hread]
  rfl

theorem ofText_of_margins (hblank : s.blank = false) (h : Contentless isMargin s) :
    ofText s = .error .absent := by
  have hread : Documents.read? s = some ⟨[], []⟩ := by
    unfold Documents.read?
    rw [no_tokens_of_margins h]
    rfl
  exact ofText_of_read hblank hread rfl

theorem ofText_of_contentless (hblank : s.blank = false) (h : Contentless Text.isBlank s) :
    ∃ e, ofText s = .error e := by
  cases hread : Documents.read? s with
  | none =>
    refine ⟨.malformed, ?_⟩
    simp only [ofText, hblank, hread]
    rfl
  | some documents =>
    obtain ⟨tokens, htokens, hdocuments⟩ := Option.bind_eq_some_iff.1 hread
    rcases opens_of_contentless h with hnone | hopens
    · obtain rfl : tokens = [] := by
        rw [hnone] at htokens
        exact (Option.some.inj htokens).symm
      cases hdocuments
      exact ⟨.absent, ofText_of_read hblank hread rfl⟩
    · -- The first root is refused before it is asked whether there are more.
      obtain ⟨text, htext, htokens⟩ := hopens tokens htokens
      obtain ⟨root, more, hroots, hroot⟩ := roots_of_opensWith htokens hdocuments
      obtain ⟨e, he⟩ := decode_of_opening documents.named htext hroot
      obtain ⟨roots, named⟩ := documents
      obtain rfl : roots = root :: more := hroots
      refine ⟨.misfit e, ?_⟩
      simp only [ofText, hblank, hread]
      rw [he]
      rfl

/-- **Documents without content.** Of the texts of blanks and comments, those of blanks alone are the
default configuration; those with comments are refused, and there is no document in them if nothing
but spaces stands in front of the comments of a line. -/
theorem contentless_read (h : Contentless Text.isBlank s) :
    (s.blank = true → ofText s = .ok {}) ∧
    (s.blank = false → ∃ e, ofText s = .error e) ∧
    (s.blank = false → Contentless isMargin s → ofText s = .error .absent) := by
  refine ⟨fun hblank => ?_, fun hblank => ofText_of_contentless hblank h, ofText_of_margins⟩
  rw [ofText, if_pos hblank]

/-- A configuration all of whose lines have been made comments. -/
def commentedOut : Text :=
  "# telemetry:\n#   enabled: false\n".toList

theorem commentedOut_contentless {p : Char → Bool} (hp : p '\n' = true) :
    Contentless p commentedOut := by
  have hline : ∀ {body s : Text}, body.all (! isBreak ·) = true → Contentless p s →
      Contentless p ('#' :: body ++ '\n' :: s) := fun hbody hs =>
    .comment (by simpa using hbody) (by simp [isBreak]) (.blank hp hs)
  have hsecond : Contentless p ('#' :: "   enabled: false".toList ++ ['\n']) :=
    hline (by decide) .nil
  have hfirst : Contentless p ('#' :: " telemetry:".toList ++
      '\n' :: ('#' :: "   enabled: false".toList ++ ['\n'])) := hline (by decide) hsecond
  exact hfirst

theorem contentless_read_comments : Contentless Text.isBlank commentedOut ∧
    commentedOut.blank = false ∧ Contentless isMargin commentedOut ∧
    ofText commentedOut = .error .absent :=
  have hcontentless : Contentless Text.isBlank commentedOut := commentedOut_contentless rfl
  have hmargins : Contentless isMargin commentedOut := commentedOut_contentless rfl
  ⟨hcontentless, rfl, hmargins, (contentless_read hcontentless).2.2 rfl hmargins⟩

/-- A configuration that is commented out is no default configuration. -/
theorem comments_refused : ¬ ∀ s, Contentless Text.isBlank s → ofText s = .ok {} := by
  intro h
  have hread := h commentedOut (commentedOut_contentless rfl)
  rw [ofText_of_margins rfl (commentedOut_contentless rfl)] at hread
  cases hread

end Configuration

end ServerTelemetry
