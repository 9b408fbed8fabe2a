import Mathlib.Data.List.TakeDrop
import ServerTelemetry.Collector
import ServerTelemetry.Proofs.Http.Authority

/-!
# Absolute URLs

An absolute URL is a scheme, an authority, and what may follow an authority: a path, a query and a
fragment (`UrlParts`). A text is read as one exactly if it is made up of such parts and is not too long
(`Uri.read_eq_absolute_iff`), and a collector can be at such a place and at no other
(`Collector.readUrl_isOk_iff`). The parts are found from left to right, each up to the first character
that it cannot have, so they are the only ones.
-/

namespace ServerTelemetry

open Text

/-! ## Letters and lengths -/

namespace Text

/-- Putting a letter in lower case makes a small letter of it, or leaves it as it is. -/
theorem toLower_cases (c : Char) :
    c.toLower = c ∨ (c.isAlphanum = true ∧ 97 ≤ c.toLower.toNat) := by
  by_cases h : 65 ≤ c.toNat ∧ c.toNat ≤ 90
  · have hcapitals : ∀ n, n < 26 → (Char.ofNat (65 + n)).isAlphanum = true ∧
        97 ≤ (Char.ofNat (65 + n)).toLower.toNat := by decide
    have hc := hcapitals (c.toNat - 65) (by omega)
    rw [show 65 + (c.toNat - 65) = c.toNat by omega, Char.ofNat_toNat] at hc
    exact Or.inr hc
  · left
    unfold Char.toLower
    split
    · next hcapital => exact absurd hcapital h
    · rfl

theorem eq_of_toLower {c d : Char} (hd : d.toNat < 97) (h : c.toLower = d) : c = d := by
  rcases toLower_cases c with hc | ⟨-, hc⟩
  · exact hc.symm.trans h
  · rw [h] at hc
    omega

theorem lower_length (s : Text) : (lower s).length = s.length :=
  List.length_map ..

theorem length_le_utf8Length (s : Text) : s.length ≤ utf8Length s := by
  induction s with
  | nil => exact Nat.le_refl _
  | cons c s ih =>
    have hsize := c.utf8Size_pos
    simp only [List.length_cons, utf8Length]
    omega

/-- Where a text is divided by a class of characters. -/
theorem span_eq_iff {p : Char → Bool} {s a b : Text} :
    s.span p = (a, b) ↔ s = a ++ b ∧ (∀ c ∈ a, p c = true) ∧ ∀ c ∈ b.head?, p c = false := by
  rw [List.span_eq_takeWhile_dropWhile, Prod.mk.injEq]
  constructor
  · rintro ⟨rfl, rfl⟩
    refine ⟨List.takeWhile_append_dropWhile.symm, fun c hc => List.mem_takeWhile_imp hc,
      fun c hc => ?_⟩
    have hnot := List.head?_dropWhile_not p s
    rw [Option.mem_def.1 hc] at hnot
    simpa using hnot
  · rintro ⟨rfl, ha, hb⟩
    rw [List.takeWhile_append_of_pos ha, List.dropWhile_append_of_pos ha]
    cases b with
    | nil => simp
    | cons c b => simp [hb c rfl]

end Text

namespace Http

/-! ## The parts of a URL -/

/-- A scheme of HTTP in lower case, any other as it is. -/
def Uri.schemeForm (scheme : Text) : Text :=
  if lower scheme = "http".toList ∨ lower scheme = "https".toList then lower scheme else scheme

/-- The parts of an absolute URL. -/
structure UrlParts where
  scheme : Text
  authority : Text
  path : Text
  query : Option Text
  fragment : Option Text

namespace UrlParts

/-- The URL with these parts. -/
def text (u : UrlParts) : Text :=
  u.scheme ++ "://".toList ++ (u.authority ++ (u.path ++ (u.query.elim [] ('?' :: ·) ++
    u.fragment.elim [] ('#' :: ·))))

/-- The parts have no other characters than they may have. -/
structure Valid (u : UrlParts) : Prop where
  scheme : ∀ c ∈ u.scheme, Uri.isSchemeChar c = true
  scheme_length : u.scheme.length ≤ 64
  authority : Authority.check u.authority = .ok ()
  authority_ne : u.authority ≠ []
  path : ∀ c ∈ u.path, Uri.isPathChar c = true
  path_slash : ∀ c ∈ u.path.head?, c = '/'
  query : ∀ q ∈ u.query, ∀ c ∈ q, Uri.isQueryChar c = true

/-- What is read of the parts: an absent path is `/`, and a fragment is dropped. -/
def uri (u : UrlParts) : Uri :=
  .absolute (Uri.schemeForm u.scheme) u.authority (if u.path.isEmpty then ['/'] else u.path) u.query

end UrlParts

/-- An absolute URL that is not too long to be read. -/
def IsAbsoluteUrl (s : Text) : Prop :=
  utf8Length s ≤ 65534 ∧ ∃ u : UrlParts, u.Valid ∧ u.text = s

namespace Uri

/-! ## Behind the authority -/

theorem readQuery_eq_ok_iff {s q : Text} :
    readQuery s = .ok q ↔ ∃ fragment : Option Text, s = q ++ fragment.elim [] ('#' :: ·) ∧
      ∀ c ∈ q, isQueryChar c = true := by
  unfold readQuery
  constructor
  · intro h
    obtain ⟨a, b, hspan⟩ : ∃ a b, s.span isQueryChar = (a, b) := ⟨_, _, rfl⟩
    obtain ⟨rfl, ha, -⟩ := span_eq_iff.1 hspan
    rw [hspan] at h
    simp only at h
    split at h
    · cases h
      exact ⟨none, rfl, ha⟩
    · next rest =>
      cases h
      exact ⟨some rest, rfl, ha⟩
    · cases h
  · rintro ⟨fragment, rfl, hq⟩
    have hspan : (q ++ fragment.elim [] ('#' :: ·)).span isQueryChar =
        (q, fragment.elim [] ('#' :: ·)) := by
      refine span_eq_iff.2 ⟨rfl, hq, fun c hc => ?_⟩
      cases fragment with
      | none => cases hc
      | some rest =>
        obtain rfl : '#' = c := Option.some.inj hc
        rfl
    rw [hspan]
    cases fragment <;> rfl

theorem readPath_eq_ok_iff {s path : Text} {query : Option Text} :
    readPath s = .ok (path, query) ↔ ∃ fragment : Option Text,
      s = path ++ (query.elim [] ('?' :: ·) ++ fragment.elim [] ('#' :: ·)) ∧
      (∀ c ∈ path, isPathChar c = true) ∧ ∀ q ∈ query, ∀ c ∈ q, isQueryChar c = true := by
  unfold readPath
  constructor
  · intro h
    obtain ⟨a, b, hspan⟩ : ∃ a b, s.span isPathChar = (a, b) := ⟨_, _, rfl⟩
    obtain ⟨rfl, ha, -⟩ := span_eq_iff.1 hspan
    rw [hspan] at h
    simp only at h
    split at h
    · cases h
      exact ⟨none, rfl, ha, fun q hq => by cases hq⟩
    · next rest =>
      cases h
      exact ⟨some rest, rfl, ha, fun q hq => by cases hq⟩
    · next rest =>
      cases hq : readQuery rest with
      | error e =>
        rw [hq] at h
        cases h
      | ok q =>
        rw [hq] at h
        cases h
        obtain ⟨fragment, rfl, hchars⟩ := readQuery_eq_ok_iff.1 hq
        refine ⟨fragment, rfl, ha, fun q' hq' => ?_⟩
        rw [← Option.some.inj hq']
        exact hchars
    · cases h
  · rintro ⟨fragment, rfl, hpath, hquery⟩
    have hspan : (path ++ (query.elim [] ('?' :: ·) ++ fragment.elim [] ('#' :: ·))).span isPathChar =
        (path, query.elim [] ('?' :: ·) ++ fragment.elim [] ('#' :: ·)) := by
      refine span_eq_iff.2 ⟨rfl, hpath, fun c hc => ?_⟩
      cases query with
      | some q =>
        obtain rfl : '?' = c := Option.some.inj hc
        rfl
      | none =>
        cases fragment with
        | none => cases hc
        | some rest =>
          obtain rfl : '#' = c := Option.some.inj hc
          rfl
    rw [hspan]
    cases query with
    | none => cases fragment <;> rfl
    | some q =>
      have hq : readQuery (q ++ fragment.elim [] ('#' :: ·)) = .ok q :=
        readQuery_eq_ok_iff.2 ⟨fragment, rfl, hquery q rfl⟩
      simp only [Option.elim_some, List.cons_append, hq]
      rfl

/-- A path that begins where an authority ends begins with a slash. -/
theorem slash_of_isEnd {rest path tail : Text} (hrest : rest = path ++ tail)
    (hpath : ∀ c ∈ path, isPathChar c = true)
    (hend : ∀ c ∈ rest.head?, Authority.isEnd c = true) : ∀ c ∈ path.head?, c = '/' := by
  intro c hc
  have hmem : c ∈ path := List.mem_of_mem_head? hc
  have hhead : c ∈ rest.head? := by
    rw [hrest, List.head?_append, Option.mem_def.1 hc]
    rfl
  have hisEnd := hend c hhead
  simp only [Authority.isEnd, Bool.or_eq_true, beq_iff_eq] at hisEnd
  rcases hisEnd with (rfl | rfl) | rfl
  · rfl
  · exact absurd (hpath _ hmem) (by decide)
  · exact absurd (hpath _ hmem) (by decide)

/-- What comes behind an authority begins where one ends. -/
theorem isEnd_of_behind {path : Text} (hslash : ∀ c ∈ path.head?, c = '/')
    (query fragment : Option Text) :
    ∀ c ∈ (path ++ (query.elim [] ('?' :: ·) ++ fragment.elim [] ('#' :: ·))).head?,
      Authority.isEnd c = true := by
  intro c hc
  cases path with
  | cons c' path =>
    obtain rfl : c' = c := Option.some.inj hc
    obtain rfl := hslash c' rfl
    rfl
  | nil =>
    cases query with
    | some q =>
      obtain rfl : '?' = c := Option.some.inj hc
      rfl
    | none =>
      cases fragment with
      | none => cases hc
      | some rest =>
        obtain rfl : '#' = c := Option.some.inj hc
        rfl

/-- What follows the slashes of a scheme is an authority with what may follow one. -/
theorem readHierarchy_eq_ok_iff {scheme s : Text} {u : Uri} :
    readHierarchy scheme s = .ok u ↔
      ∃ (authority path : Text) (query fragment : Option Text),
        s = authority ++ (path ++ (query.elim [] ('?' :: ·) ++ fragment.elim [] ('#' :: ·))) ∧
        Authority.check authority = .ok () ∧ authority ≠ [] ∧
        (∀ c ∈ path, isPathChar c = true) ∧ (∀ c ∈ path.head?, c = '/') ∧
        (∀ q ∈ query, ∀ c ∈ q, isQueryChar c = true) ∧
        u = .absolute scheme authority (if path.isEmpty then ['/'] else path) query := by
  unfold readHierarchy
  constructor
  · intro h
    obtain ⟨authority, rest, hspan⟩ : ∃ a b, s.span (! Authority.isEnd ·) = (a, b) := ⟨_, _, rfl⟩
    obtain ⟨rfl, -, hend⟩ := span_eq_iff.1 hspan
    rw [hspan] at h
    by_cases hempty : (authority ++ rest).isEmpty
    · simp only [hempty, ↓reduceIte] at h
      cases h
    · cases hcheck : Authority.check authority with
      | error e =>
        simp only [hempty, hcheck] at h
        cases h
      | ok _ =>
        by_cases hne : authority.isEmpty
        · simp only [hempty, hcheck, hne] at h
          cases h
        · cases hread : readPath rest with
          | error e =>
            simp only [hempty, hcheck, hne, hread] at h
            cases h
          | ok p =>
            simp only [hempty, hcheck, hne, hread] at h
            cases h
            obtain ⟨fragment, hrest, hpath, hquery⟩ := readPath_eq_ok_iff.1 hread
            refine ⟨authority, p.1, p.2, fragment, by rw [hrest], hcheck, ?_, hpath, ?_, hquery, rfl⟩
            · rintro rfl
              exact hne rfl
            · exact slash_of_isEnd hrest hpath fun c hc => by simpa using hend c hc
  · rintro ⟨authority, path, query, fragment, rfl, hcheck, hne, hpath, hslash, hquery, rfl⟩
    let rest := path ++ (query.elim [] ('?' :: ·) ++ fragment.elim [] ('#' :: ·))
    have hspan : (authority ++ rest).span (! Authority.isEnd ·) = (authority, rest) := by
      refine span_eq_iff.2 ⟨rfl, fun c hc => ?_, fun c hc => ?_⟩
      · rw [Authority.isEnd_of_isChar (Authority.isChar_of_check hcheck c hc)]
        rfl
      · rw [isEnd_of_behind hslash query fragment c hc]
        rfl
    have hread : readPath rest = .ok (path, query) :=
      readPath_eq_ok_iff.2 ⟨fragment, rfl, hpath, hquery⟩
    have hempty : authority.isEmpty = false := by simpa using hne
    have hfull : (authority ++ rest).isEmpty = false := by simp [hne]
    unfold rest at hspan hread hfull
    simp only [hspan, hfull, hempty, hcheck, hread]
    rfl

/-! ## In front of the authority -/

theorem notMem_colon {scheme : Text} (h : ∀ c ∈ scheme, isSchemeChar c = true) : ':' ∉ scheme :=
  fun hmem => absurd (h _ hmem) (by decide)

/-- What is a scheme with its slashes in lower case is one as it is. -/
theorem scheme_of_lower {s : Text} (n : Nat) (scheme : Text) (hscheme : scheme.all (·.isAlphanum) = true)
    (h : lower (s.take n) = scheme ++ "://".toList) :
    ∃ front, s = front ++ "://".toList ++ s.drop n ∧ lower front = scheme ∧
      ∀ c ∈ front, isSchemeChar c = true := by
  obtain ⟨front, slashes, htake, hfront, hslashes⟩ := List.map_eq_append_iff.1 h
  have hexact : slashes = "://".toList := by
    have hmarks : ∀ d ∈ "://".toList, d.toNat < 97 := by
      intro d hd
      have hmark : d = ':' ∨ d = '/' := by simpa using hd
      rcases hmark with rfl | rfl <;> decide
    refine Eq.trans (Eq.symm ?_) hslashes
    refine (List.map_congr_left fun c hc => ?_).trans (List.map_id _)
    have hmem : c.toLower ∈ "://".toList := hslashes ▸ List.mem_map_of_mem hc
    exact (eq_of_toLower (hmarks _ hmem) rfl).symm
  refine ⟨front, by rw [← hexact, ← htake, List.take_append_drop], hfront, fun c hc => ?_⟩
  have hlower : c.toLower ∈ scheme := by
    rw [← hfront]
    exact List.mem_map_of_mem hc
  rcases toLower_cases c with hsame | ⟨halpha, -⟩
  · have halpha := List.all_eq_true.1 hscheme _ hlower
    rw [hsame] at halpha
    rw [isSchemeChar, halpha, Bool.true_or]
  · rw [isSchemeChar, halpha, Bool.true_or]

/-- A scheme with its slashes is what a text begins with, in lower case as well. -/
theorem lower_take_of_scheme (front rest : Text) :
    lower ((front ++ "://".toList ++ rest).take (front.length + 3)) =
      lower front ++ "://".toList := by
  have hlength : (front ++ "://".toList).length = front.length + 3 := List.length_append
  rw [← hlength, List.take_left, lower_append]
  rfl

theorem readScheme_append {scheme rest : Text} (hscheme : ∀ c ∈ scheme, isSchemeChar c = true)
    (hlength : scheme.length ≤ 64) (hrest : rest ≠ []) :
    readScheme (scheme ++ "://".toList ++ rest) = .ok (some (schemeForm scheme, rest)) := by
  let s := scheme ++ "://".toList ++ rest
  have hlong : ∀ name, lower scheme = name → scheme.length = name.length := fun name hname => by
    rw [← hname, lower_length]
  have hdrop : s.drop (scheme.length + 3) = rest := by
    have hfront : (scheme ++ "://".toList).length = scheme.length + 3 := List.length_append
    rw [← hfront, List.drop_left]
  have hform := lower_take_of_scheme scheme rest
  -- A text that begins with another scheme has its first colon elsewhere.
  have hother : ∀ (n : Nat) (name : Text), name.all (·.isAlphanum) = true → lower scheme ≠ name →
      lower (s.take n) ≠ name ++ "://".toList := by
    intro n name hname hne htake
    obtain ⟨front, hs, hfront, hchars⟩ := scheme_of_lower n name hname htake
    have hcut := cut_append (b := "//".toList ++ rest) (notMem_colon hscheme)
    have hcut' := cut_append (b := "//".toList ++ s.drop n) (notMem_colon hchars)
    have hsame : scheme ++ ':' :: ("//".toList ++ rest) = front ++ ':' :: ("//".toList ++ s.drop n) := by
      simpa [s] using hs
    rw [hsame, hcut'] at hcut
    exact hne (by rw [← hfront, (Prod.mk.inj (Option.some.inj hcut)).1])
  unfold readScheme schemeForm
  by_cases hhttp : lower scheme = "http".toList
  · rw [hhttp, hlong _ hhttp] at hform
    rw [hlong _ hhttp] at hdrop
    have htake : lower (s.take 7) = "http://".toList := hform
    have hrest : s.drop 7 = rest := hdrop
    rw [if_pos htake, hrest, if_pos (Or.inl hhttp), hhttp]
  · have htake : lower (s.take 7) ≠ "http://".toList := hother 7 "http".toList (by decide) hhttp
    rw [if_neg htake]
    by_cases hhttps : lower scheme = "https".toList
    · rw [hhttps, hlong _ hhttps] at hform
      rw [hlong _ hhttps] at hdrop
      have htake : lower (s.take 8) = "https://".toList := hform
      have hrest : s.drop 8 = rest := hdrop
      rw [if_pos htake, hrest, if_pos (Or.inr hhttps), hhttps]
    · have htake : lower (s.take 8) ≠ "https://".toList := hother 8 "https".toList (by decide) hhttps
      have hspan : s.span isSchemeChar = (scheme, "://".toList ++ rest) := by
        refine span_eq_iff.2 ⟨List.append_assoc .., hscheme, fun c hc => ?_⟩
        obtain rfl : ':' = c := Option.some.inj hc
        decide
      have hbytes : ¬ utf8Length s ≤ 3 := by
        have hle := length_le_utf8Length s
        have hpos := List.length_pos_iff.2 hrest
        have hsum : s.length = scheme.length + 3 + rest.length := by
          simp [s, Nat.add_assoc, Nat.add_comm 3]
        omega
      rw [if_neg htake, if_neg (not_or.2 ⟨hhttp, hhttps⟩), hspan]
      exact (if_neg hbytes).trans (if_neg (Nat.not_lt.2 hlength))

theorem of_readScheme {s scheme rest : Text} (h : readScheme s = .ok (some (scheme, rest))) :
    ∃ front, s = front ++ "://".toList ++ rest ∧ (∀ c ∈ front, isSchemeChar c = true) ∧
      front.length ≤ 64 ∧ scheme = schemeForm front := by
  have hlength : ∀ {front name : Text}, lower front = name → name.length ≤ 64 →
      front.length ≤ 64 := by
    rintro front name rfl hle
    rwa [lower_length] at hle
  unfold readScheme at h
  split at h
  · next htake =>
    obtain ⟨front, hs, hfront, hchars⟩ := scheme_of_lower 7 "http".toList (by decide) htake
    cases h
    exact ⟨front, hs, hchars, hlength hfront (by decide), by
      rw [schemeForm, if_pos (Or.inl hfront), hfront]⟩
  · next hhttp =>
    split at h
    · next htake =>
      obtain ⟨front, hs, hfront, hchars⟩ :=
        scheme_of_lower 8 "https".toList (by decide) htake
      cases h
      exact ⟨front, hs, hchars, hlength hfront (by decide), by
        rw [schemeForm, if_pos (Or.inr hfront), hfront]⟩
    · next hhttps =>
      obtain ⟨front, behind, hspan⟩ : ∃ a b, s.span isSchemeChar = (a, b) := ⟨_, _, rfl⟩
      obtain ⟨rfl, hchars, -⟩ := span_eq_iff.1 hspan
      rw [hspan] at h
      simp only at h
      split at h
      · next behind =>
        split at h
        · cases h
        · split at h
          · cases h
          · next hlong =>
            cases h
            have hs : scheme ++ ':' :: '/' :: '/' :: rest = scheme ++ "://".toList ++ rest :=
              (List.append_assoc scheme "://".toList rest).symm
            have hform := lower_take_of_scheme scheme rest
            rw [← hs] at hform
            refine ⟨scheme, hs, hchars, Nat.le_of_not_lt hlong, (if_neg ?_).symm⟩
            rintro (hname | hname)
            · rw [hname, show scheme.length = 4 by rw [← lower_length, hname]; rfl] at hform
              exact hhttp hform
            · rw [hname, show scheme.length = 5 by rw [← lower_length, hname]; rfl] at hform
              exact hhttps hform
      · cases h

/-! ## The whole URL -/

/-- A lone authority is no absolute URI. -/
theorem readAuthority_ne_absolute (s : Text) {scheme authority path : Text} {query : Option Text} :
    readAuthority s ≠ .ok (.absolute scheme authority path query) := by
  intro h
  unfold readAuthority at h
  obtain ⟨found, rest, hspan⟩ : ∃ a b, s.span (! Authority.isEnd ·) = (a, b) := ⟨_, _, rfl⟩
  rw [hspan] at h
  cases hcheck : Authority.check found with
  | error e =>
    simp only [hcheck] at h
    cases h
  | ok _ =>
    simp only [hcheck] at h
    change (if rest.isEmpty then _ else _) = _ at h
    split at h
    · cases h
    · split at h <;> cases h

theorem read_eq_hierarchy {s scheme rest : Text} (hlength : utf8Length s ≤ 65534)
    (hslash : ∀ c ∈ s.head?, c ≠ '/') (hscheme : readScheme s = .ok (some (scheme, rest))) :
    read s = readHierarchy scheme rest := by
  have hempty : readScheme [] ≠ .ok (some (scheme, rest)) := by
    rw [show readScheme [] = .ok none by decide]
    exact fun h => by cases h
  have hstar : readScheme ['*'] ≠ .ok (some (scheme, rest)) := by
    rw [show readScheme ['*'] = .ok none by decide]
    exact fun h => by cases h
  unfold read
  rw [if_neg (Nat.not_lt.2 hlength)]
  split
  · exact absurd hscheme hempty
  · exact absurd hscheme hstar
  · exact absurd rfl (hslash '/' rfl)
  · rw [hscheme]
    rfl

/-- **A text is read as an absolute URI if and only if it is made up of the parts of one**, and then
these are its parts. -/
theorem read_eq_absolute_iff {s scheme authority path : Text} {query : Option Text} :
    read s = .ok (.absolute scheme authority path query) ↔
      utf8Length s ≤ 65534 ∧
        ∃ u : UrlParts, u.Valid ∧ u.text = s ∧ u.uri = .absolute scheme authority path query := by
  constructor
  · intro h
    unfold read at h
    have hlength : utf8Length s ≤ 65534 := by
      refine Nat.le_of_not_lt fun hlong => ?_
      rw [if_pos hlong] at h
      cases h
    refine ⟨hlength, ?_⟩
    rw [if_neg (Nat.not_lt.2 hlength)] at h
    split at h
    · cases h
    · cases h
    · next rest =>
      cases hpath : readPath ('/' :: rest) with
      | error e =>
        rw [hpath] at h
        cases h
      | ok p =>
        rw [hpath] at h
        cases h
    · cases hscheme : readScheme s with
      | error e =>
        rw [hscheme] at h
        cases h
      | ok found =>
        rw [hscheme] at h
        cases found with
        | none => exact absurd h (readAuthority_ne_absolute s)
        | some found =>
          obtain ⟨front, rfl, hchars, hfront, hform⟩ := of_readScheme hscheme
          obtain ⟨authority', path', query', fragment, hrest, hcheck, hne, hpath, hslash, hquery, he⟩ :=
            readHierarchy_eq_ok_iff.1 h
          refine ⟨⟨front, authority', path', query', fragment⟩,
            ⟨hchars, hfront, hcheck, hne, hpath, hslash, hquery⟩, by rw [hrest]; rfl, ?_⟩
          rw [he, hform]
          rfl
  · rintro ⟨hlength, u, hu, rfl, huri⟩
    let rest := u.authority ++ (u.path ++ (u.query.elim [] ('?' :: ·) ++ u.fragment.elim [] ('#' :: ·)))
    have hrest : rest ≠ [] := by simp [rest, hu.authority_ne]
    have hscheme : readScheme u.text = .ok (some (schemeForm u.scheme, rest)) :=
      readScheme_append hu.scheme hu.scheme_length hrest
    have hslash : ∀ c ∈ u.text.head?, c ≠ '/' := by
      rintro c hc rfl
      unfold UrlParts.text at hc
      cases hfront : u.scheme with
      | nil =>
        rw [hfront] at hc
        cases hc
      | cons c' front =>
        rw [hfront] at hc
        obtain rfl : c' = '/' := Option.some.inj hc
        exact absurd (hu.scheme '/' (by rw [hfront]; exact List.mem_cons_self)) (by decide)
    rw [read_eq_hierarchy hlength hslash hscheme, ← huri]
    exact readHierarchy_eq_ok_iff.2 ⟨u.authority, u.path, u.query, u.fragment, rfl, hu.authority,
      hu.authority_ne, hu.path, hu.path_slash, hu.query, rfl⟩

end Uri

end Http

namespace Collector

open Http

/-- **A collector can be at any absolute URL**, and at no other place. -/
theorem readUrl_isOk_iff (place : Text) :
    (∃ url, readUrl place = .ok url) ↔ IsAbsoluteUrl place := by
  unfold readUrl IsAbsoluteUrl
  constructor
  · rintro ⟨url, h⟩
    split at h
    · cases h
    · next scheme authority path query hread =>
      obtain ⟨hlength, u, hu, htext, -⟩ := Uri.read_eq_absolute_iff.1 hread
      exact ⟨hlength, u, hu, htext⟩
    · cases h
  · rintro ⟨hlength, u, hu, htext⟩
    rw [Uri.read_eq_absolute_iff.2 ⟨hlength, u, hu, htext, rfl⟩]
    exact ⟨_, rfl⟩

/-- A place that is refused is named in the error. -/
theorem readUrl_eq_error {place : Text} {error : ConfigurationError}
    (h : readUrl place = .error error) : ∃ reason, error = .endpoint place reason := by
  unfold readUrl at h
  split at h
  · cases h
    exact ⟨_, rfl⟩
  · cases h
  · cases h
    exact ⟨_, rfl⟩

/-- Without a place of its own a collector is on this machine. -/
theorem isAbsoluteUrl_localPlace (protocol : Protocol) : IsAbsoluteUrl (localPlace protocol) := by
  rw [← readUrl_isOk_iff]
  cases protocol
  · exact ⟨_, rfl⟩
  · exact ⟨_, rfl⟩

end Collector

end ServerTelemetry
