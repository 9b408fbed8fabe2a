import Mathlib.Data.List.Induction
import ServerTelemetry.Proofs.Http.AbsoluteUrl
import ServerTelemetry.Proofs.Text.Padded

/-!
# Completed URLs

The path of an absolute URL can always be completed: what is put together is the URL with
`UrlParts.completed`, which has the parts of the given one but for the path and the fragment
(`complete_uri`). So completing never fails, and a second time it changes nothing
(`completed_within_parts`). Slashes at the end of the path give way to what is added, but a path that
is complete is looked for before they do: a complete path with a slash behind it is completed once
more (`completed_past_slashes`).
-/

namespace ServerTelemetry

open Text

/-! ## Slashes at the end -/

namespace Collector

/-- A path is a path that ends in no slash, with slashes behind it. -/
theorem exists_base (path : Text) : ∃ base n, path = base ++ List.replicate n '/' ∧
    base.getLast? ≠ some '/' := by
  induction path using List.reverseRecOn with
  | nil => exact ⟨[], 0, rfl, by simp⟩
  | append_singleton path c ih =>
    by_cases hc : c = '/'
    · obtain ⟨base, n, rfl, hbase⟩ := ih
      exact ⟨base, n + 1, by rw [hc, List.replicate_succ', List.append_assoc], hbase⟩
    · exact ⟨path ++ [c], 0, by simp, by simpa using hc⟩

theorem dropWhileEnd_slashes {base : Text} (h : base.getLast? ≠ some '/') (n : Nat) :
    dropWhileEnd (· == '/') (base ++ List.replicate n '/') = base := by
  have hslashes : dropWhileEnd (· == '/') (List.replicate n '/') = [] := by
    simp [dropWhileEnd]
  rcases List.eq_nil_or_concat base with rfl | ⟨init, c, rfl⟩
  · exact hslashes
  · have hc : c ≠ '/' := by simpa using h
    rw [dropWhileEnd_bare_append (by simp) (by simpa using hc), hslashes, List.append_nil]

/-- What ends in the path spans are posted to does not end in a slash. -/
theorem not_isSuffix_slash {base : Text} {n : Nat} (hn : n ≠ 0) :
    ¬ tracesPath <:+ base ++ List.replicate n '/' := by
  rintro ⟨front, h⟩
  obtain ⟨n, rfl⟩ := Nat.exists_eq_succ_of_ne_zero hn
  have hlast := congrArg List.getLast? h
  rw [List.replicate_succ', ← List.append_assoc, List.getLast?_concat, List.getLast?_append,
    Option.or_of_isSome (by decide)] at hlast
  exact absurd hlast (by decide)

/-- A path that ends in the path spans are posted to. -/
def completePath (path : Text) : Text :=
  if tracesPath <:+ path then path else dropWhileEnd (· == '/') path ++ tracesPath

theorem isSuffix_completePath (path : Text) : tracesPath <:+ completePath path := by
  unfold completePath
  split
  · assumption
  · exact List.suffix_append ..

theorem completePath_of_isSuffix {path : Text} (h : tracesPath <:+ path) :
    completePath path = path :=
  if_pos h

/-- The end of a path alone decides whether it is complete, and its slashes are told from it. -/
theorem completePath_slashes {base : Text} (h : base.getLast? ≠ some '/') (n : Nat) :
    completePath (base ++ List.replicate n '/') =
      if n = 0 ∧ tracesPath <:+ base then base else base ++ tracesPath := by
  unfold completePath
  by_cases hn : n = 0
  · subst hn
    simp only [List.replicate_zero, List.append_nil, true_and]
    split
    · rfl
    · have hbase := dropWhileEnd_slashes h 0
      rw [List.replicate_zero, List.append_nil] at hbase
      rw [hbase]
  · rw [if_neg (not_isSuffix_slash hn), if_neg fun hand => hn hand.1, dropWhileEnd_slashes h]

end Collector

/-! ## Parts of a completed URL -/

namespace Http

/-- The parts with a complete path and without a fragment. -/
def UrlParts.completed (u : UrlParts) : UrlParts where
  scheme := Uri.schemeForm u.scheme
  authority := u.authority
  path := Collector.completePath u.path
  query := u.query
  fragment := none

theorem Uri.schemeForm_schemeForm (scheme : Text) :
    schemeForm (schemeForm scheme) = schemeForm scheme := by
  unfold schemeForm
  split
  · next h => rw [lower_lower, if_pos h]
  · next h => rfl

theorem Uri.isSchemeChar_schemeForm {scheme : Text} (h : ∀ c ∈ scheme, isSchemeChar c = true) :
    ∀ c ∈ schemeForm scheme, isSchemeChar c = true := by
  unfold schemeForm
  split
  · next hname =>
    rcases hname with hname | hname
    · rw [hname]
      exact List.all_eq_true.1 (by decide)
    · rw [hname]
      exact List.all_eq_true.1 (by decide)
  · exact h

theorem Uri.length_schemeForm (scheme : Text) : (schemeForm scheme).length = scheme.length := by
  unfold schemeForm
  split
  · exact lower_length scheme
  · rfl

namespace UrlParts

variable {u : UrlParts}

theorem completed_path_ne (u : UrlParts) : u.completed.path ≠ [] := by
  intro h
  have hsuffix := Collector.isSuffix_completePath u.path
  rw [show Collector.completePath u.path = [] from h] at hsuffix
  exact absurd (List.suffix_nil.1 hsuffix) (by decide)

theorem completed_uri (u : UrlParts) : u.completed.uri =
    .absolute (Uri.schemeForm u.scheme) u.authority (Collector.completePath u.path) u.query := by
  have hpath : u.completed.path.isEmpty = false := by simpa using u.completed_path_ne
  rw [uri, hpath]
  exact congrArg (Uri.absolute · _ _ _) (Uri.schemeForm_schemeForm u.scheme)

/-- A URL is written as the text of its parts where these are as they are read. -/
theorem completed_text (u : UrlParts) : u.completed.text = u.completed.uri.write := by
  rw [completed_uri]
  cases hquery : u.query <;>
    simp [text, completed, Uri.write, Uri.writeQuery, hquery, List.append_assoc]

theorem Valid.path_completePath (hu : u.Valid) :
    (∀ c ∈ Collector.completePath u.path, Uri.isPathChar c = true) ∧
      ∀ c ∈ (Collector.completePath u.path).head?, c = '/' := by
  unfold Collector.completePath
  split
  · exact ⟨hu.path, hu.path_slash⟩
  · obtain ⟨slashes, hslashes⟩ := dropWhileEnd_isPrefix (· == '/') u.path
    have htraces : Collector.tracesPath.all Uri.isPathChar = true := by decide
    constructor
    · intro c hc
      rcases List.mem_append.1 hc with hc | hc
      · exact hu.path c (hslashes ▸ List.mem_append_left _ hc)
      · exact List.all_eq_true.1 htraces c hc
    · intro c hc
      cases hbase : dropWhileEnd (· == '/') u.path with
      | nil =>
        rw [hbase] at hc
        exact (Option.some.inj hc).symm
      | cons d base =>
        rw [hbase] at hc hslashes
        refine hu.path_slash c ?_
        rw [← hslashes]
        exact hc

theorem Valid.completed (hu : u.Valid) : u.completed.Valid where
  scheme := Uri.isSchemeChar_schemeForm hu.scheme
  scheme_length := (Uri.length_schemeForm u.scheme).trans_le hu.scheme_length
  authority := hu.authority
  authority_ne := hu.authority_ne
  path := hu.path_completePath.1
  path_slash := hu.path_completePath.2
  query := hu.query

end UrlParts

end Http

namespace Collector

open Http

/-! ## Completing -/

theorem readUrl_eq_ok_iff {place : Text} {url : Uri} : readUrl place = .ok url ↔
    utf8Length place ≤ 65534 ∧ ∃ u : UrlParts, u.Valid ∧ u.text = place ∧ u.uri = url := by
  unfold readUrl
  constructor
  · intro h
    split at h
    · cases h
    · next hread =>
      obtain ⟨hlength, u, hu, htext, huri⟩ := Uri.read_eq_absolute_iff.1 hread
      cases h
      exact ⟨hlength, u, hu, htext, huri⟩
    · cases h
  · rintro ⟨hlength, u, hu, htext, rfl⟩
    rw [Uri.read_eq_absolute_iff.2 ⟨hlength, u, hu, htext, rfl⟩]
    rfl

/-- What is put behind a path is read as the path and the query it is made of. -/
theorem readTarget_write {path : Text} {query : Option Text} (hne : path ≠ [])
    (hpath : ∀ c ∈ path, Uri.isPathChar c = true)
    (hquery : ∀ q ∈ query, ∀ c ∈ q, Uri.isQueryChar c = true) :
    Uri.readTarget (path ++ Uri.writeQuery query) = .ok (path, query) := by
  have hread : Uri.readPath (path ++ Uri.writeQuery query) = .ok (path, query) :=
    Uri.readPath_eq_ok_iff.2 ⟨none, by cases query <;> simp [Uri.writeQuery], hpath, hquery⟩
  have hempty : path.isEmpty = false := by simpa using hne
  unfold Uri.readTarget
  rw [hread]
  change Except.ok (if path.isEmpty then ['/'] else path, query) = _
  rw [hempty]
  rfl

/-- An absent path is completed as `/` is. -/
theorem completePath_ifEmpty (path : Text) :
    completePath (if path.isEmpty then ['/'] else path) = completePath path := by
  cases path with
  | nil => decide
  | cons c path => rfl

theorem complete_of_isSuffix {url : Uri} (h : tracesPath <:+ url.path) : complete url = .ok url :=
  if_pos (List.isSuffixOf_iff_suffix.2 h)

theorem complete_of_not_isSuffix {scheme authority path : Text} {query : Option Text}
    (h : ¬ tracesPath <:+ path)
    (hpath : ∀ c ∈ dropWhileEnd (· == '/') path ++ tracesPath, Uri.isPathChar c = true)
    (hquery : ∀ q ∈ query, ∀ c ∈ q, Uri.isQueryChar c = true) :
    complete (.absolute scheme authority path query) =
      .ok (.absolute scheme authority (dropWhileEnd (· == '/') path ++ tracesPath) query) := by
  have hne : dropWhileEnd (· == '/') path ++ tracesPath ≠ [] :=
    List.append_ne_nil_of_right_ne_nil _ (by decide)
  have hread := readTarget_write hne hpath hquery
  have hnot : ¬ tracesPath.isSuffixOf path = true := fun hsuffix =>
    h (List.isSuffixOf_iff_suffix.1 hsuffix)
  unfold complete
  simp only [Uri.path, Uri.query?, if_neg hnot, hread]
  rfl

/-- **Neither part of completing fails**: the URL with the completed parts is what comes of it. -/
theorem complete_uri {u : UrlParts} (hu : u.Valid) : complete u.uri = .ok u.completed.uri := by
  have hchars := hu.path_completePath.1
  rw [UrlParts.completed_uri, ← completePath_ifEmpty u.path]
  rw [← completePath_ifEmpty] at hchars
  by_cases hsuffix : tracesPath <:+ if u.path.isEmpty then ['/'] else u.path
  · rw [completePath_of_isSuffix hsuffix]
    exact complete_of_isSuffix hsuffix
  · rw [completePath, if_neg hsuffix] at hchars ⊢
    exact complete_of_not_isSuffix hsuffix hchars hu.query

/-- A URL that has been read can be completed, and its parts tell to what. -/
theorem complete_of_readUrl {place : Text} {url : Uri} (h : readUrl place = .ok url) :
    ∃ u : UrlParts, u.Valid ∧ u.text = place ∧ url = u.uri ∧ complete url = .ok u.completed.uri := by
  obtain ⟨-, u, hu, htext, rfl⟩ := readUrl_eq_ok_iff.1 h
  exact ⟨u, hu, htext, rfl, complete_uri hu⟩

/-- The path of a URL that has been read is the path of its parts, or `/`. -/
theorem completePath_uri_path (u : UrlParts) : completePath u.uri.path = completePath u.path :=
  completePath_ifEmpty u.path

/-- **A URL that has been read is completed within its parts.** Completing does not fail. Scheme,
authority and query stay. The path ends in the path spans are posted to: it is the given one if that
ends so, and otherwise the given one without the slashes at its end and with that path behind it. What
comes of it is complete, and is read again from its text if that is not too long. -/
theorem completed_within_parts (place : Text) (url : Uri) (h : readUrl place = .ok url) :
    ∃ completed, complete url = .ok completed ∧
      (completed.scheme? = url.scheme? ∧ completed.authority? = url.authority? ∧
        completed.query? = url.query?) ∧
      tracesPath <:+ completed.path ∧
      (tracesPath <:+ url.path → completed.path = url.path) ∧
      (¬ tracesPath <:+ url.path → ∃ base n, url.path = base ++ List.replicate n '/' ∧
        base.getLast? ≠ some '/' ∧ completed.path = base ++ tracesPath) ∧
      complete completed = .ok completed ∧
      (utf8Length completed.write ≤ 65534 → readUrl completed.write = .ok completed) := by
  obtain ⟨u, hu, -, rfl, hcomplete⟩ := complete_of_readUrl h
  have hpath : u.completed.uri.path = completePath u.uri.path := by
    rw [UrlParts.completed_uri, completePath_uri_path]
    rfl
  refine ⟨u.completed.uri, hcomplete, ?_, ?_, ?_, ?_, ?_, ?_⟩
  · rw [UrlParts.completed_uri]
    exact ⟨rfl, rfl, rfl⟩
  · rw [hpath]
    exact isSuffix_completePath _
  · intro hsuffix
    rw [hpath, completePath_of_isSuffix hsuffix]
  · intro hsuffix
    obtain ⟨base, n, hbase, hlast⟩ := exists_base u.uri.path
    refine ⟨base, n, hbase, hlast, ?_⟩
    rw [hpath, completePath, if_neg hsuffix, hbase, dropWhileEnd_slashes hlast]
  · refine complete_of_isSuffix ?_
    rw [hpath]
    exact isSuffix_completePath _
  · intro hlength
    rw [← UrlParts.completed_text] at hlength ⊢
    exact readUrl_eq_ok_iff.2 ⟨hlength, u.completed, hu.completed, rfl, rfl⟩

/-- A path with slashes at its end, a query that is there and empty, and a fragment. -/
theorem completed_within_parts_slashes :
    let place := "HTTP://collector:4318/spans//?#main".toList
    let url := Uri.absolute "http".toList "collector:4318".toList "/spans//".toList (some [])
    let completed :=
      Uri.absolute "http".toList "collector:4318".toList "/spans/v1/traces".toList (some [])
    readUrl place = .ok url ∧ complete url = .ok completed ∧ complete completed = .ok completed := by
  intro place url completed
  have hread : readUrl place = .ok url := by decide
  obtain ⟨other, hother, -, -, -, -, hagain, -⟩ := completed_within_parts place url hread
  have hcompleted : complete url = .ok completed := by decide
  obtain rfl : completed = other := Except.ok.inj (hcompleted.symm.trans hother)
  exact ⟨hread, hcompleted, hagain⟩

end Collector

/-! ## Slashes that differ -/

/-- The parts with slashes behind the path. -/
def Http.UrlParts.withSlashes (u : UrlParts) (n : Nat) : UrlParts :=
  { u with path := u.path ++ List.replicate n '/' }

theorem Http.UrlParts.Valid.withSlashes {u : UrlParts} (hu : u.Valid) (n : Nat) :
    (u.withSlashes n).Valid where
  scheme := hu.scheme
  scheme_length := hu.scheme_length
  authority := hu.authority
  authority_ne := hu.authority_ne
  path := by
    intro c hc
    rcases List.mem_append.1 hc with hc | hc
    · exact hu.path c hc
    · rw [List.eq_of_mem_replicate hc]
      decide
  path_slash := by
    intro c hc
    have hhead : c ∈ (u.path ++ List.replicate n '/').head? := hc
    rw [List.head?_append, Option.mem_def, Option.or_eq_some_iff] at hhead
    rcases hhead with hhead | ⟨-, hhead⟩
    · exact hu.path_slash c hhead
    · exact List.eq_of_mem_replicate (List.mem_of_mem_head? hhead)
  query := hu.query

namespace Collector

open Http

/-- The slashes behind a path are lost, unless there are none behind a path that is complete. -/
theorem complete_withSlashes {u : UrlParts} (hu : u.Valid) (hbase : u.path.getLast? ≠ some '/')
    {n : Nat} {url : Uri} (h : readUrl (u.withSlashes n).text = .ok url) :
    complete url = .ok (.absolute (Uri.schemeForm u.scheme) u.authority
      (if n = 0 ∧ tracesPath <:+ u.path then u.path else u.path ++ tracesPath) u.query) := by
  have hvalid := hu.withSlashes n
  have hlength := (readUrl_eq_ok_iff.1 h).1
  have hread := readUrl_eq_ok_iff.2 ⟨hlength, u.withSlashes n, hvalid, rfl, rfl⟩
  obtain rfl := Except.ok.inj (h.symm.trans hread)
  rw [complete_uri hvalid, UrlParts.completed_uri, ← completePath_slashes hbase]
  rfl

/-- **Slashes at the end of a path make no difference** to the URL that is completed, unless the path
in front of them ends in the path spans are posted to. Then one slash and more are alike, but none is
different: with a slash behind it that path is not seen, and is added once more. -/
theorem completed_past_slashes (u : UrlParts) (hu : u.Valid) (hbase : u.path.getLast? ≠ some '/')
    (m n : Nat) (a b : Uri) (ha : readUrl (u.withSlashes m).text = .ok a)
    (hb : readUrl (u.withSlashes n).text = .ok b) :
    (complete a = complete b ↔ (tracesPath <:+ u.path → (m = 0 ↔ n = 0))) ∧
    ∃ completed, complete a = .ok completed ∧
      completed.path =
        (if m = 0 ∧ tracesPath <:+ u.path then u.path else u.path ++ tracesPath) ∧
      (tracesPath ++ tracesPath <:+ completed.path ↔ if m = 0 then
        tracesPath ++ tracesPath <:+ u.path else tracesPath <:+ u.path) := by
  have hne : u.path ≠ u.path ++ tracesPath := by
    intro h
    exact absurd (List.self_eq_append_right.1 h) (by decide)
  have htwice : tracesPath ++ tracesPath <:+ u.path ++ tracesPath ↔ tracesPath <:+ u.path :=
    (List.suffix_append_inj_of_length_eq rfl).trans (and_iff_left rfl)
  have honce : tracesPath ++ tracesPath <:+ u.path → tracesPath <:+ u.path :=
    (List.suffix_append ..).trans
  rw [complete_withSlashes hu hbase ha, complete_withSlashes hu hbase hb]
  refine ⟨?_, _, rfl, rfl, ?_⟩
  · simp only [Except.ok.injEq, Uri.absolute.injEq, true_and, and_true]
    by_cases hsuffix : tracesPath <:+ u.path
    · by_cases hm : m = 0 <;> by_cases hn : n = 0 <;> simp [hm, hn, hsuffix, hne, hne.symm]
    · simp [hsuffix]
  · -- The path is there twice in the end exactly if a base that ends in it gets it again.
    by_cases hm : m = 0
    · by_cases hsuffix : tracesPath <:+ u.path
      · simp [Uri.path, hm, hsuffix]
      · simp [Uri.path, hm, hsuffix, htwice, mt honce hsuffix]
    · simp [Uri.path, hm, htwice]

/-- The parts of a URL of HTTP without a query. -/
theorem valid_plain {authority path : Text} (hauthority : Authority.check authority = .ok ())
    (hne : authority ≠ []) (hpath : path.all Uri.isPathChar && path.head? == some '/') :
    UrlParts.Valid ⟨"http".toList, authority, path, none, none⟩ := by
  obtain ⟨hchars, hslash⟩ := Bool.and_eq_true_iff.1 hpath
  have hscheme : "http".toList.all Uri.isSchemeChar = true ∧ "http".toList.length ≤ 64 := by decide
  refine ⟨List.all_eq_true.1 hscheme.1, hscheme.2, hauthority, hne, List.all_eq_true.1 hchars,
    fun c hc => ?_, fun q hq => nomatch hq⟩
  rw [beq_iff_eq] at hslash
  exact Option.some.inj (hc.symm.trans hslash)

/-- Slashes behind a path that is not complete. -/
theorem completed_past_slashes_spans :
    let u : UrlParts := ⟨"http".toList, "collector".toList, "/spans".toList, none, none⟩
    let a := Uri.absolute "http".toList "collector".toList "/spans".toList none
    let b := Uri.absolute "http".toList "collector".toList "/spans//".toList none
    u.Valid ∧ readUrl (u.withSlashes 0).text = .ok a ∧ readUrl (u.withSlashes 2).text = .ok b ∧
      complete a = complete b := by
  intro u a b
  have hu : u.Valid := valid_plain (by decide) (by decide) (by decide)
  have ha : readUrl (u.withSlashes 0).text = .ok a := by decide
  have hb : readUrl (u.withSlashes 2).text = .ok b := by decide
  have hsame := (completed_past_slashes u hu (by decide) 0 2 a b ha hb).1
  exact ⟨hu, ha, hb, hsame.2 fun hsuffix => absurd hsuffix (by decide)⟩

/-- The path spans are posted to is added once more behind its own slash. -/
theorem traces_path_doubled :
    ¬ ∀ (u : UrlParts) (m n : Nat) (a b : Uri), u.Valid → u.path.getLast? ≠ some '/' →
      readUrl (u.withSlashes m).text = .ok a → readUrl (u.withSlashes n).text = .ok b →
      complete a = complete b := by
  intro hsame
  let u : UrlParts := ⟨"http".toList, "collector:4318".toList, "/v1/traces".toList, none, none⟩
  let once := Uri.absolute "http".toList "collector:4318".toList "/v1/traces".toList none
  let slash := Uri.absolute "http".toList "collector:4318".toList "/v1/traces/".toList none
  have hu : u.Valid := valid_plain (by decide) (by decide) (by decide)
  exact absurd (hsame u 0 1 once slash hu (by decide) (by decide) (by decide)) (by decide)

end Collector

end ServerTelemetry
