import Mathlib.Data.List.Flatten
import ServerTelemetry.Proofs.Extractor.Headers
import ServerTelemetry.Proofs.Extractor.Keys
import ServerTelemetry.Proofs.Text.Padded
import ServerTelemetry.Text.Utf8

/-!
# Which header values are read

A value is read if and only if its bytes are the UTF-8 form of text that has printable ASCII
characters and tabs alone (`readable?_eq_filter`). Values that are no text are passed over, and so are
those with any other character in them: text in another script is carried and never looked at. So a
header is read in full if all of its text is printable, and not otherwise (`ascii_values_read`,
`text_not_read`).
-/

namespace ServerTelemetry

open Text

namespace Http

/-- Whether the character is the tab or one that ASCII can print. -/
def isPrintable (c : Char) : Bool :=
  c == '\t' || (' ' ≤ c && c ≤ '~')

/-- Text that ASCII can print, with its tabs. -/
def printable (s : Text) : Bool :=
  s.all isPrintable

/-- The text among the values of the fields with a name, in order. -/
def Headers.texts (headers : Headers) (name : Text) : List Text :=
  (headers.fieldValues (lower name)).filterMap utf8Decode

/-! ## Bytes of printable characters -/

theorem isPrintable_iff {c : Char} :
    isPrintable c = true ↔ c.toNat = 9 ∨ (32 ≤ c.toNat ∧ c.toNat ≤ 126) := by
  have htab : c = '\t' ↔ c.toNat = 9 := Char.toNat_inj.symm
  have hle : ∀ a b : Char, a ≤ b ↔ a.toNat ≤ b.toNat := fun a b => Iff.rfl
  simp [isPrintable, htab, hle]

theorem isReadableByte_iff {b : UInt8} :
    isReadableByte b = true ↔ b.toNat = 9 ∨ (32 ≤ b.toNat ∧ b.toNat ≤ 126) := by
  have htab : b = 9 ↔ b.toNat = 9 := UInt8.toNat_inj.symm
  simp [isReadableByte, htab]
  omega

theorem toNat_ofNat {n : Nat} (h : n.isValidChar) : (Char.ofNat n).toNat = n := by
  rw [Char.ofNat, dif_pos h]
  rfl

theorem isPrintable_ofNat {b : UInt8} :
    isPrintable (Char.ofNat b.toNat) = isReadableByte b := by
  have hb : b.toNat < 256 := b.toNat_lt
  rw [Bool.eq_iff_iff, isPrintable_iff, isReadableByte_iff, toNat_ofNat (Or.inl (by omega))]

theorem le_of_scalar? {least n : Nat} {c : Char} (h : scalar? least n = some c) :
    least ≤ c.toNat := by
  simp only [scalar?, Option.ite_none_right_eq_some, Option.some.injEq] at h
  obtain ⟨⟨hle, hvalid⟩, rfl⟩ := h
  rwa [toNat_ofNat hvalid]

theorem readable?_cons_eq_some_iff {b : UInt8} {bytes : List UInt8} {t : Text} :
    readable? (b :: bytes) = some t ↔
      isReadableByte b = true ∧ ∃ s, readable? bytes = some s ∧ t = Char.ofNat b.toNat :: s := by
  cases hb : isReadableByte b <;> cases hall : bytes.all isReadableByte <;>
    simp [readable?, hb, hall, eq_comm]

theorem utf8Decode_of_readable? {bytes : List UInt8} {t : Text} (h : readable? bytes = some t) :
    utf8Decode bytes = some t ∧ ∀ c ∈ t, isPrintable c = true := by
  induction bytes generalizing t with
  | nil =>
    cases h
    exact ⟨rfl, fun c hc => absurd hc List.not_mem_nil⟩
  | cons b bytes ih =>
    obtain ⟨hb, s, hs, rfl⟩ := readable?_cons_eq_some_iff.1 h
    obtain ⟨hdecode, hprintable⟩ := ih hs
    have hlt : b.toNat < 0x80 := by
      have := isReadableByte_iff.1 hb
      omega
    have hcons : utf8Decode (b :: bytes) = (utf8Decode bytes).map (Char.ofNat b.toNat :: ·) := by
      rw [utf8Decode.eq_def]
      exact if_pos hlt
    refine ⟨by rw [hcons, hdecode, Option.map_some], ?_⟩
    exact List.forall_mem_cons.2 ⟨isPrintable_ofNat.trans hb, hprintable⟩

/-- No text that begins with a character of more than one byte is printable. -/
theorem not_printable_of_scalar? {least n : Nat} {rest : Option Text} {t : Text}
    (hleast : 0x80 ≤ least)
    (h : ((scalar? least n).bind fun c => rest.map (c :: ·)) = some t) :
    ¬ ∀ c ∈ t, isPrintable c = true := by
  intro hall
  obtain ⟨c, hscalar, hrest⟩ := Option.bind_eq_some_iff.1 h
  obtain ⟨s, -, rfl⟩ := Option.map_eq_some_iff.1 hrest
  have hc := isPrintable_iff.1 (hall c List.mem_cons_self)
  have hle := le_of_scalar? hscalar
  omega

theorem readable?_of_utf8Decode {bytes : List UInt8} {t : Text} (h : utf8Decode bytes = some t)
    (hall : ∀ c ∈ t, isPrintable c = true) : readable? bytes = some t := by
  -- Only the first byte's own character can be printable: the other cases take two bytes or more.
  fun_induction utf8Decode bytes generalizing t
  case case1 =>
    cases h
    rfl
  case case2 a rest n hlt ih =>
    obtain ⟨s, hs, rfl⟩ := Option.map_eq_some_iff.1 h
    obtain ⟨ha, hrest⟩ := List.forall_mem_cons.1 hall
    rw [isPrintable_ofNat] at ha
    exact readable?_cons_eq_some_iff.2 ⟨ha, s, ih hs hrest, rfl⟩
  case case4 =>
    obtain ⟨_, -, h⟩ := Option.bind_eq_some_iff.1 h
    exact absurd hall (not_printable_of_scalar? (by decide) h)
  case case6 =>
    obtain ⟨_, -, h⟩ := Option.bind_eq_some_iff.1 h
    obtain ⟨_, -, h⟩ := Option.bind_eq_some_iff.1 h
    exact absurd hall (not_printable_of_scalar? (by decide) h)
  case case8 =>
    obtain ⟨_, -, h⟩ := Option.bind_eq_some_iff.1 h
    obtain ⟨_, -, h⟩ := Option.bind_eq_some_iff.1 h
    obtain ⟨_, -, h⟩ := Option.bind_eq_some_iff.1 h
    exact absurd hall (not_printable_of_scalar? (by decide) h)
  all_goals cases h

/-- **What is read of a value** is its text, where that is printable. -/
theorem readable?_eq_filter (bytes : List UInt8) :
    readable? bytes = (utf8Decode bytes).filter printable := by
  refine Option.ext fun t => ?_
  rw [Option.filter_eq_some_iff, printable, List.all_eq_true]
  exact ⟨utf8Decode_of_readable?, fun ⟨hdecode, hall⟩ => readable?_of_utf8Decode hdecode hall⟩

theorem Headers.lines_eq_filter (headers : Headers) (name : Text) :
    headers.lines name = (headers.texts name).filter printable := by
  rw [lines_eq_filterMap, texts, List.filter_filterMap, funext readable?_eq_filter]

/-- Printable text is read from its bytes. -/
theorem readable?_utf8Encode {s : Text} (h : ∀ c ∈ s, isPrintable c = true) :
    readable? (utf8Encode s) = some s := by
  induction s with
  | nil => rfl
  | cons c s ih =>
    obtain ⟨hc, hs⟩ := List.forall_mem_cons.1 h
    have hrange := isPrintable_iff.1 hc
    have hbyte : utf8EncodeChar c = [c.toNat.toUInt8] := if_pos (by omega)
    have hnat : c.toNat.toUInt8.toNat = c.toNat := by
      simp
      omega
    have hchar : Char.ofNat c.toNat.toUInt8.toNat = c := by rw [hnat, Char.ofNat_toNat]
    rw [utf8Encode, List.flatMap_cons, hbyte]
    refine readable?_cons_eq_some_iff.2 ⟨?_, s, ih hs, by rw [hchar]⟩
    rw [← isPrintable_ofNat, hchar, hc]

/-- What can be read can be sent. -/
theorem all_isValueByte {bytes : List UInt8} {s : Text} (h : readable? bytes = some s) :
    bytes.all isValueByte = true := by
  simp only [readable?, Option.ite_none_right_eq_some, List.all_eq_true] at h
  refine List.all_eq_true.2 fun b hb => ?_
  have hread := h.1 b hb
  simp only [isReadableByte, Bool.or_eq_true, Bool.and_eq_true, decide_eq_true_eq] at hread
  rw [isValueByte, Bool.or_eq_true, Bool.and_eq_true, decide_eq_true_eq, bne_iff_ne]
  rcases hread with htab | ⟨hlow, hhigh⟩
  · exact Or.inl htab
  · exact Or.inr ⟨hlow, by omega⟩

end Http

/-! ## What is lost with a line -/

section Lost

variable {α : Type} {p : Text → Bool}

/-- Nothing is lost with the texts that are left out if these have nothing to give. -/
theorem flatMap_filter_eq_iff (f : Text → List α) (lines : List Text) :
    (lines.filter p).flatMap f = lines.flatMap f ↔ ∀ s ∈ lines, p s = true ∨ f s = [] := by
  induction lines with
  | nil => simp
  | cons s lines ih =>
    rw [List.forall_mem_cons, ← ih]
    cases hp : p s with
    | true => simp [hp]
    | false =>
      rw [List.filter_cons_of_neg (by simp [hp]), List.flatMap_cons]
      constructor
      · intro h
        -- What is left gives no more than all do, so the text in front gives nothing.
        have hle : ((lines.filter p).flatMap f).length ≤ (lines.flatMap f).length :=
          ((List.filter_sublist (p := p)).flatMap f).length_le
        have hlength := congrArg List.length h
        rw [List.length_append] at hlength
        have hnil : f s = [] := List.eq_nil_of_length_eq_zero (by omega)
        rw [hnil, List.nil_append] at h
        exact ⟨Or.inr hnil, h⟩
      · rintro ⟨hs, h⟩
        rw [hs.resolve_left (by simp), h, List.nil_append]

theorem append_join {sep : Text} {lines : List Text} (h : lines ≠ []) :
    sep ++ join sep lines = lines.flatMap (sep ++ ·) := by
  induction lines with
  | nil => exact absurd rfl h
  | cons s lines ih =>
    cases lines with
    | nil => simp [join]
    | cons t lines => simp [join, ih]

/-- A line that is left out is missed where lines are joined. -/
theorem joinedHeader_filter_eq_iff (lines : List Text) :
    joinedHeader (lines.filter p) = joinedHeader lines ↔ ∀ s ∈ lines, p s = true := by
  constructor
  · intro h
    by_cases hnil : lines.filter p = []
    · cases lines with
      | nil => exact fun s hs => absurd hs List.not_mem_nil
      | cons s lines =>
        rw [hnil] at h
        cases h
    · have hne : lines ≠ [] := by
        rintro rfl
        exact hnil rfl
      have hjoin : join ", ".toList (lines.filter p) = join ", ".toList lines := by
        simpa [joinedHeader, List.isEmpty_iff, hnil, hne] using h
      have hflat := congrArg (", ".toList ++ ·) hjoin
      simp only [append_join hnil, append_join hne] at hflat
      intro s hs
      have hempty := (flatMap_filter_eq_iff _ lines).1 hflat s hs
      exact hempty.resolve_right (by simp)
  · intro h
    rw [List.filter_eq_self.2 h]

end Lost

namespace Http

/-- Of some texts those that are printable list all entries exactly if the others have none. -/
theorem listInTurn_printable_iff (texts : List Text) :
    ListInTurn texts ((texts.filter printable).flatMap items) ↔
      ∀ text ∈ texts, printable text = true ∨ Lists text [] := by
  simp only [listInTurn_iff, lists_iff]
  exact eq_comm.trans (flatMap_filter_eq_iff items texts)

/-- **Values are read if they are printable ASCII**, and passed over otherwise. The entries of a
header are those that the printable text among its values lists, in order, and the header as it was
sent is that text, joined. So what is read is all the text, or at least all entries, exactly if all
text is printable or has no entries. One value for the user agent that is text is recorded as it is
exactly if it is printable. -/
theorem ascii_values_read (r : Request) (s : Response) (e : Extractor) (name : Text) :
    (ListInTurn ((r.headers.texts name).filter printable) (r.facts.header name) ∧
      r.facts.headerValue name = joinedHeader ((r.headers.texts name).filter printable) ∧
      ListInTurn ((s.headers.texts name).filter printable) (s.facts.header name)) ∧
    (ListInTurn (r.headers.texts name) (r.facts.header name) ↔
      ∀ text ∈ r.headers.texts name, printable text = true ∨ Lists text []) ∧
    (r.facts.headerValue name = joinedHeader (r.headers.texts name) ↔
      ∀ text ∈ r.headers.texts name, printable text = true) ∧
    (ListInTurn (s.headers.texts name) (s.facts.header name) ↔
      ∀ text ∈ s.headers.texts name, printable text = true ∨ Lists text []) ∧
    ∀ value text, r.headers.fieldValues "user-agent".toList = [value] →
      utf8Decode value = some text →
      (Attribute.select (· == .userAgent) (e.onStart r.facts) = [⟨.userAgent, .text text⟩] ↔
        printable text = true) := by
  have hrequest := r.headers.lines_eq_filter name
  have hheader : r.facts.header name = ((r.headers.texts name).filter printable).flatMap items :=
    congrArg (List.flatMap items) hrequest
  have hvalue : r.facts.headerValue name =
      joinedHeader ((r.headers.texts name).filter printable) := congrArg joinedHeader hrequest
  have hresponse : s.facts.header name = ((s.headers.texts name).filter printable).flatMap items :=
    congrArg (List.flatMap items) (s.headers.lines_eq_filter name)
  refine ⟨⟨listInTurn_iff.2 hheader.symm, hvalue, listInTurn_iff.2 hresponse.symm⟩, ?_, ?_, ?_,
    fun value text hagent htext => ?_⟩
  · rw [hheader]
    exact listInTurn_printable_iff _
  · rw [hvalue]
    exact joinedHeader_filter_eq_iff _
  · rw [hresponse]
    exact listInTurn_printable_iff _
  · have hlower : lower "user-agent".toList = "user-agent".toList := by decide
    have htexts : r.headers.texts "user-agent".toList = [text] := by
      rw [Headers.texts, hlower, hagent, List.filterMap_cons_some htext, List.filterMap_nil]
    have hread : r.facts.headerValue "user-agent".toList =
        joinedHeader ([text].filter printable) := by
      rw [← htexts, ← Headers.lines_eq_filter]
      rfl
    rw [Extractor.select_userAgent_onStart, hread]
    cases hprintable : printable text with
    | true => simp [hprintable, joinedHeader, join, Attribute.text?]
    | false => simp [hprintable, joinedHeader, Attribute.text?]

/-- A browser's name is recorded. -/
theorem ascii_values_read_browser :
    let agent : List UInt8 := "Mozilla/5.0 (X11)".toList.map fun c => UInt8.ofNat c.toNat
    let request : Request :=
      ⟨"GET".toList, .origin "/".toList none, .v11, [⟨"user-agent".toList, agent⟩], [], none, none⟩
    request.headers.fieldValues "user-agent".toList = [agent] ∧
      utf8Decode agent = some "Mozilla/5.0 (X11)".toList ∧
      Attribute.select (· == .userAgent) (Extractor.standard.onStart request.facts) =
        [⟨.userAgent, .text "Mozilla/5.0 (X11)".toList⟩] := by
  intro agent request
  have hagent : request.headers.fieldValues "user-agent".toList = [agent] := by decide
  have hread : readable? agent = some "Mozilla/5.0 (X11)".toList := by decide
  obtain ⟨htext, -⟩ := utf8Decode_of_readable? hread
  have hrecorded := (ascii_values_read request ⟨200, [], []⟩ .standard []).2.2.2.2 agent _ hagent
    htext
  exact ⟨hagent, htext, hrecorded.2 (by decide)⟩

/-- The two bytes of `é` are text, and yet a value of these is passed over. -/
theorem text_not_read :
    ¬ ∀ (r : Request) (name : Text), ListInTurn (r.headers.texts name) (r.facts.header name) := by
  intro hread
  let request : Request :=
    ⟨"GET".toList, .origin "/".toList none, .v11, [⟨"x".toList, [0xC3, 0xA9]⟩], [], none, none⟩
  have hx := listInTurn_iff.1 (hread request "x".toList)
  have hsent : request.facts.header "x".toList = [] := by decide
  rw [hsent] at hx
  exact absurd hx (by decide)

end Http

end ServerTelemetry
