import ServerTelemetry.Proofs.Document.Entries
import ServerTelemetry.Proofs.Document.Reading

/-!
# The order of keys

Two nodes are `Reordered` if they are the same but for the order of the keys in the mappings inside
them. A decoder for which that makes no difference is `Orderless`, and all decoders are, sections
with fields of such decoders too (`Section.orderless`).
-/

namespace ServerTelemetry

/-! ## Labels -/

namespace Labels

theorem mem_entries_iff {labels : Labels} {name text : Text} :
    (name, text) ∈ labels.entries ↔ labels.find? name = some text := by
  unfold find?
  rw [List.lookup_eq_some_iff]
  constructor
  · intro h
    obtain ⟨before, after, heq⟩ := List.append_of_mem h
    have hsorted := labels.sorted
    rw [heq, List.map_append, List.pairwise_append] at hsorted
    refine ⟨before, after, heq, ?_⟩
    intro e he
    have hlt : e.1 < name := hsorted.2.2 e.1 (List.mem_map_of_mem he) name List.mem_cons_self
    exact bne_iff_ne.2 fun heq => List.lt_irrefl name (heq ▸ hlt)
  · rintro ⟨before, after, heq, -⟩
    simp [heq]

theorem nodup_names (labels : Labels) : (labels.entries.map Prod.fst).Nodup := by
  refine labels.sorted.imp ?_
  rintro name _ hlt rfl
  exact List.lt_irrefl name hlt

theorem ext_find? {a b : Labels} (h : ∀ name, a.find? name = b.find? name) : a = b := by
  have hnodup : ∀ labels : Labels, labels.entries.Nodup := fun labels =>
    .of_map Prod.fst labels.nodup_names
  have hperm : a.entries.Perm b.entries := by
    rw [List.perm_ext_iff_of_nodup (hnodup a) (hnodup b)]
    rintro ⟨name, text⟩
    rw [mem_entries_iff, mem_entries_iff, h]
  refine entries_injective (hperm.eq_of_pairwise ?_ (List.pairwise_map.1 a.sorted)
    (List.pairwise_map.1 b.sorted))
  intro e e' _ _ hlt hgt
  exact absurd hgt (List.lt_asymm hlt)

/-- The last one of a name counts. -/
theorem find?_insertAll (labels : Labels) (entries : List (Text × Text)) (name : Text) :
    (labels.insertAll entries).find? name
      = (entries.filter (·.1 == name)).foldl (fun _ e => some e.2) (labels.find? name) := by
  induction entries generalizing labels with
  | nil => rfl
  | cons e entries ih =>
    have hrest := ih (labels.insert e.1 e.2)
    rw [find?_insert] at hrest
    by_cases hname : name = e.1
    · subst hname
      rw [if_pos rfl] at hrest
      rw [List.filter_cons_of_pos (by simp)]
      exact hrest
    · rw [if_neg hname] at hrest
      rw [List.filter_cons_of_neg (by simpa using Ne.symm hname)]
      exact hrest

theorem insertAll_congr {entries entries' : List (Text × Text)}
    (h : ∀ name, entries.filter (·.1 == name) = entries'.filter (·.1 == name))
    (labels : Labels) : labels.insertAll entries = labels.insertAll entries' := by
  apply ext_find?
  intro name
  rw [find?_insertAll, find?_insertAll, h]

end Labels

namespace Document

open Yaml

/-- The same entries in another order. Those with the same key keep theirs, as the last one of them
may be the one that counts. -/
structure Rearranged (named : Named) (entries entries' : List (Node × Node)) : Prop where
  perm : entries.Perm entries'
  stable : ∀ name, entries.filter (·.1.text? named == some name)
    = entries'.filter (·.1.text? named == some name)

/-- Where all keys are different, every order will do. -/
theorem Rearranged.of_perm {named : Named} {entries entries' : List (Node × Node)}
    (hdistinct : (entries.map (·.1.text? named)).Nodup) (h : entries.Perm entries') :
    Rearranged named entries entries' := by
  refine ⟨h, ?_⟩
  intro name
  have hperm := h.filter (·.1.text? named == some name)
  have hkeys : (entries.filter (·.1.text? named == some name)).map (·.1.text? named)
      = List.replicate (entries.filter (·.1.text? named == some name)).length (some name) := by
    rw [List.eq_replicate_iff, List.length_map]
    refine ⟨rfl, ?_⟩
    intro key hkey
    obtain ⟨e, he, rfl⟩ := List.mem_map.1 hkey
    exact beq_iff_eq.1 (List.mem_filter.1 he).2
  have hone : (entries.filter (·.1.text? named == some name)).length ≤ 1 := by
    rw [← List.nodup_replicate (a := some name), ← hkeys]
    exact hdistinct.sublist (List.filter_sublist.map _)
  generalize entries.filter (·.1.text? named == some name) = found at hperm hone
  match found, hone with
  | [], _ => exact (List.nil_perm.1 hperm).symm
  | [e], _ => exact List.singleton_perm.1 hperm

/-- Two keys with the same text, both of them written or both referred to. -/
inductive SameKey (named named' : Named) : Node → Node → Prop
  | written {s : Text} {plain plain' : Bool} {tag tag' : Option Tag} :
    SameKey named named' (.scalar s plain tag) (.scalar s plain' tag')
  | referred {number number' : Nat}
      (h : (Node.alias number).text? named = (Node.alias number').text? named') :
    SameKey named named' (.alias number) (.alias number')

/-- Two nodes are the same but for the order of the keys of mappings. -/
inductive Reordered (named named' : Named) : Node → Node → Prop
  | scalar {n n' : Node} {s : Text} {plain : Bool} {tag : Option Tag}
      (h : n.target named = .scalar s plain tag) (h' : n'.target named' = .scalar s plain tag) :
    Reordered named named' n n'
  | sequence {n n' : Node} {items items' : List Node} (h : n.target named = .sequence items)
      (h' : n'.target named' = .sequence items')
      (hitems : List.Forall₂ (Reordered named named') items items') : Reordered named named' n n'
  | mapping {n n' : Node} {entries middle entries' : List (Node × Node)}
      (h : n.target named = .mapping entries) (h' : n'.target named' = .mapping entries')
      (horder : Rearranged named entries middle)
      (hkeys : List.Forall₂ (SameKey named named') (middle.map Prod.fst) (entries'.map Prod.fst))
      (hvalues : List.Forall₂ (Reordered named named') (middle.map Prod.snd)
        (entries'.map Prod.snd)) : Reordered named named' n n'

theorem SameKey.text? {named named' : Named} {key key' : Node} (h : SameKey named named' key key') :
    key.text? named = key'.text? named' := by
  cases h with
  | written => rfl
  | referred h => exact h

theorem Reordered.text? {named named' : Named} {n n' : Node} (h : Reordered named named' n n') :
    n.text? named = n'.text? named' := by
  unfold Node.text?
  cases h with
  | scalar h h' => rw [h, h']
  | sequence h h' => rw [h, h']
  | mapping h h' => rw [h, h']

/-- The entries of reordered mappings, one by one. -/
theorem reordered_entries {named named' : Named} {entries entries' : List (Node × Node)}
    (hkeys : List.Forall₂ (SameKey named named') (entries.map Prod.fst) (entries'.map Prod.fst))
    (hvalues : List.Forall₂ (Reordered named named') (entries.map Prod.snd)
      (entries'.map Prod.snd)) :
    List.Forall₂ (fun e e' => e.1.text? named = e'.1.text? named' ∧ Reordered named named' e.2 e'.2)
      entries entries' := by
  rw [List.forall₂_map_left_iff, List.forall₂_map_right_iff] at hkeys hvalues
  induction hkeys with
  | nil => exact .nil
  | cons hkey _ ih =>
    rw [List.forall₂_cons] at hvalues
    exact .cons ⟨hkey.text?, hvalues.1⟩ (ih hvalues.2)

theorem map_eq_of_forall₂ {α β γ : Type} {f : α → γ} {g : β → γ} {as : List α} {bs : List β}
    (h : List.Forall₂ (fun a b => f a = g b) as bs) : as.map f = bs.map g := by
  rw [← List.forall₂_eq_eq_eq, List.forall₂_map_left_iff, List.forall₂_map_right_iff]
  exact h

namespace Decoder

variable {α : Type}

/-- What is read out of a node is not up to the order of keys, nor to where the node stands. -/
def Orderless (decoder : Decoder α) : Prop :=
  ∀ {named named' n n'}, Reordered named named' n n' → ∀ {place x},
    decoder named place n = .ok x → ∀ place', decoder named' place' n' = .ok x

/-! ### Scalars -/

/-- Only scalars are read, and what is read is up to the scalar alone. -/
def OfScalars (decoder : Decoder α) : Prop :=
  ∀ {named place n x}, decoder named place n = .ok x →
    ∃ s plain tag, n.target named = .scalar s plain tag ∧
      ∀ {named' place' n'}, n'.target named' = .scalar s plain tag →
        decoder named' place' n' = .ok x

theorem OfScalars.orderless {decoder : Decoder α} (h : decoder.OfScalars) : decoder.Orderless := by
  intro named named' n n' hn place x hx place'
  obtain ⟨s, plain, tag, htarget, hread⟩ := h hx
  cases hn with
  | scalar hs hs' =>
    rw [hs] at htarget
    exact hread (hs'.trans htarget)
  | sequence hs => cases hs.symm.trans htarget
  | mapping hs => cases hs.symm.trans htarget

theorem refuse_ne_ok {expected : Text} {named : Named} {place : Place} {n : Node} {x : α} :
    refuse expected named place n ≠ .ok x := by
  unfold refuse
  cases content named place n <;> simp [fail, bind, Except.bind]

theorem text_ofScalars : text.OfScalars := by
  intro named place n x hx
  unfold text at hx
  split at hx
  case h_1 s plain tag htarget =>
    refine ⟨s, plain, tag, htarget, ?_⟩
    intro named' place' n' h'
    simpa only [text, h'] using hx
  case h_2 => exact absurd hx refuse_ne_ok

theorem text?_ofScalars : text?.OfScalars := by
  intro named place n x hx
  unfold text? at hx
  split at hx
  case h_1 s htarget =>
    refine ⟨s, true, none, htarget, ?_⟩
    intro named' place' n' h'
    simpa only [text?, h'] using hx
  case h_2 s tag htarget =>
    refine ⟨s, true, some tag, htarget, ?_⟩
    intro named' place' n' h'
    simp only [text?, h']
    split_ifs at hx ⊢ <;> first | exact hx | cases hx
  case h_3 hplain htagged =>
    cases htext : text named place n with
    | error e => simp [htext, Except.map] at hx
    | ok s =>
      obtain ⟨s, plain, tag, htarget, hread⟩ := text_ofScalars htext
      refine ⟨s, plain, tag, htarget, ?_⟩
      intro named' place' n' h'
      rw [htext] at hx
      cases plain with
      | true =>
        cases tag with
        | none => exact absurd htarget (hplain s)
        | some tag => exact absurd htarget (htagged s tag)
      | false =>
        simp only [text?, h', hread h']
        exact hx

theorem duration_ofScalars : duration.OfScalars := by
  intro named place n x hx
  unfold duration at hx
  split at hx
  case h_1 s plain tag htarget =>
    refine ⟨s, plain, tag, htarget, ?_⟩
    intro named' place' n' h'
    simp only [duration, h']
    cases hread : Duration.read s with
    | none => simp [hread, fail] at hx
    | some d => simpa [hread] using hx
  case h_2 => exact absurd hx refuse_ne_ok

@[simp] theorem text_orderless : text.Orderless :=
  text_ofScalars.orderless

@[simp] theorem text?_orderless : text?.Orderless :=
  text?_ofScalars.orderless

@[simp] theorem duration_orderless : duration.Orderless :=
  duration_ofScalars.orderless

theorem content_orderless : content.Orderless := by
  intro named named' n n' hn place c hc place'
  cases hn with
  | @scalar _ _ s plain tag h h' =>
    simp only [content, h, h'] at hc ⊢
    cases hread : Content.ofScalar s plain tag with
    | error expected => simp [hread, fail] at hc
    | ok found => simpa [hread] using hc
  | sequence h h' => simpa only [content, h, h'] using hc
  | mapping h h' => simpa only [content, h, h'] using hc

theorem flag_eq_ok_iff {named : Named} {place : Place} {n : Node} {value : Bool} :
    flag named place n = .ok value ↔ content named place n = .ok (.flag value) := by
  unfold flag
  cases content named place n with
  | error e => simp [bind, Except.bind]
  | ok found => cases found <;> simp [bind, Except.bind, pure, Except.pure, fail]

theorem nothing_eq_ok_iff {named : Named} {place : Place} {n : Node} :
    nothing named place n = .ok () ↔ content named place n = .ok .nothing := by
  unfold nothing
  cases content named place n with
  | error e => simp [bind, Except.bind]
  | ok found => cases found <;> simp [bind, Except.bind, pure, Except.pure, fail]

@[simp] theorem flag_orderless : flag.Orderless := by
  intro named named' n n' hn place value hvalue place'
  rw [flag_eq_ok_iff] at hvalue ⊢
  exact content_orderless hn hvalue place'

theorem nothing_orderless : nothing.Orderless := by
  intro named named' n n' hn place value hvalue place'
  rw [nothing_eq_ok_iff] at hvalue ⊢
  exact content_orderless hn hvalue place'

/-! ### Lists and words -/

theorem items_cons_eq_ok_iff {item : Decoder α} {named : Named} {place : Place} {index : Nat}
    {node : Node} {nodes : List Node} {values : List α} :
    items item named place index (node :: nodes) = .ok values ↔
      ∃ value rest, item named (.item index :: place) node = .ok value ∧
        items item named place (index + 1) nodes = .ok rest ∧ value :: rest = values := by
  rw [items]
  cases item named (.item index :: place) node with
  | error e => simp [bind, Except.bind]
  | ok value =>
    cases items item named place (index + 1) nodes with
    | error e => simp [bind, Except.bind]
    | ok rest => simp [bind, Except.bind, pure, Except.pure]

@[simp] theorem list_orderless {item : Decoder α} (hitem : item.Orderless) : (list item).Orderless := by
  intro named named' n n' hn place values hvalues place'
  cases hn with
  | scalar h => simp only [list, h] at hvalues; exact absurd hvalues refuse_ne_ok
  | mapping h => simp only [list, h] at hvalues; exact absurd hvalues refuse_ne_ok
  | @sequence _ _ nodes nodes' h h' hnodes =>
    simp only [list, h, h'] at hvalues ⊢
    clear h h'
    generalize 0 = index at hvalues ⊢
    induction hnodes generalizing index values with
    | nil => exact hvalues
    | cons hnode _ ih =>
      obtain ⟨value, rest, hvalue, hrest, rfl⟩ := items_cons_eq_ok_iff.1 hvalues
      exact items_cons_eq_ok_iff.2 ⟨value, rest, hitem hnode hvalue _, ih (index + 1) hrest, rfl⟩

theorem elim_fail_eq_ok_iff {found : Option α} {place : Place} {fault : Fault} {x : α} :
    found.elim (fail place fault) .ok = .ok x ↔ found = some x := by
  cases found <;> simp [fail]

theorem word_of_scalar {kind : Text} {words : List (Text × α)} {named : Named} {place : Place}
    {n : Node} {name : Text} {plain : Bool} {tag : Option Tag}
    (hn : n.target named = .scalar name plain tag) {x : α} :
    word kind words named place n = .ok x ↔ words.lookup name = some x ∧
      ∀ suffix, tag = some ⟨['!'], suffix⟩ → words.lookup suffix = none := by
  simp only [word, hn]
  split
  case h_1 suffix =>
    simp only [Option.some.injEq, Tag.mk.injEq, true_and, forall_eq']
    cases hsuffix : words.lookup suffix with
    | none => simp only [Option.isSome_none, Bool.false_eq_true, ↓reduceIte, elim_fail_eq_ok_iff,
        and_true]
    | some y => simp only [Option.isSome_some, ↓reduceIte, fail, reduceCtorEq, and_false]
  case h_2 hother =>
    rw [elim_fail_eq_ok_iff]
    constructor
    · intro hname
      exact ⟨hname, fun suffix htag => absurd htag (hother suffix)⟩
    · exact And.left

theorem word_of_mapping {kind : Text} {words : List (Text × α)} {named : Named} {place : Place}
    {n : Node} {entries : List (Node × Node)} (hn : n.target named = .mapping entries) {x : α} :
    word kind words named place n = .ok x ↔ ∃ name plain tag value,
      entries = [(.scalar name plain tag, value)] ∧ words.lookup name = some x ∧
        nothing named (.key name :: place) value = .ok () := by
  simp only [word, hn]
  rcases entries with _ | ⟨⟨key, value⟩, more⟩
  · simp [fail]
  cases key with
  | scalar name plain tag =>
    cases hname : words.lookup name with
    | none => simp [hname, fail, bind, Except.bind]
    | some y =>
      cases hvalue : nothing named (.key name :: place) value with
      | error e => simp [hname, hvalue, bind, Except.bind]
      | ok u => cases more <;> simp [hname, hvalue, bind, Except.bind, pure, Except.pure, fail]
  | sequence | mapping | «alias» => simp [refuse_ne_ok]

@[simp] theorem word_orderless {kind : Text} {words : List (Text × α)} :
    (word kind words).Orderless := by
  intro named named' n n' hn place x hx place'
  cases hn with
  | scalar h h' =>
    rw [word_of_scalar h] at hx
    exact (word_of_scalar h').2 hx
  | sequence h => simp only [word, h] at hx; exact absurd hx refuse_ne_ok
  | @mapping _ _ entries middle entries' h h' horder hkeys hvalues =>
    obtain ⟨name, plain, tag, value, rfl, hname, hvalue⟩ := (word_of_mapping h).1 hx
    obtain rfl := List.perm_singleton.1 horder.perm.symm
    obtain ⟨⟨key', value'⟩, rfl⟩ : ∃ e, entries' = [e] := by
      rw [← List.length_eq_one_iff, ← List.length_map, ← hkeys.length_eq]
      rfl
    simp only [List.map_cons, List.map_nil, List.forall₂_cons, List.forall₂_nil_left_iff,
      and_true] at hkeys hvalues
    cases hkeys
    exact (word_of_mapping h').2
      ⟨name, _, _, value', rfl, hname, nothing_orderless hvalues hvalue _⟩

/-! ### Labels -/

/-- The texts of a key and of its value. -/
def texts (named : Named) (e : Node × Node) : Option (Text × Text) := do
  return (← e.1.text? named, ← e.2.text? named)

theorem text_eq_ok_iff {named : Named} {place : Place} {n : Node} {s : Text} :
    text named place n = .ok s ↔ n.text? named = some s := by
  unfold text Node.text?
  cases n.target named <;> simp [refuse_ne_ok]

/-- Reads the texts of a key and of its value. -/
def entry (named : Named) (place : Place) (e : Node × Node) : Except Misfit (Text × Text) := do
  let (name, step) ← key "a string".toList named place e.1
  return (name, ← text named (step :: place) e.2)

theorem entry_eq_ok_iff (named : Named) (place : Place) (e : Node × Node) (found : Text × Text) :
    entry named place e = .ok found ↔ texts named e = some found := by
  unfold entry texts
  cases hkey : key "a string".toList named place e.1 with
  | error misfit =>
    have hnone : e.1.text? named = none := by
      by_contra hsome
      obtain ⟨name, hname⟩ := Option.ne_none_iff_exists'.1 hsome
      rw [key_eq_ok_iff.2 ⟨hname, rfl⟩] at hkey
      cases hkey
    simp [hnone, bind, Except.bind]
  | ok result =>
    obtain ⟨name, step⟩ := result
    obtain ⟨hname, rfl⟩ := key_eq_ok_iff.1 hkey
    cases htext : text named (e.1.step name :: place) e.2 with
    | error misfit =>
      have hnone : e.2.text? named = none := by
        by_contra hsome
        obtain ⟨s, hs⟩ := Option.ne_none_iff_exists'.1 hsome
        rw [text_eq_ok_iff.2 hs] at htext
        cases htext
      simp [hname, hnone, htext, bind, Except.bind]
    | ok s => simp [hname, text_eq_ok_iff.1 htext, htext, bind, Except.bind, pure, Except.pure]

theorem mapM_eq_ok_iff {β γ ε : Type} {f : β → Except ε γ} {g : β → Option γ}
    (h : ∀ e found, f e = .ok found ↔ g e = some found) (entries : List β) (found : List γ) :
    entries.mapM f = .ok found ↔
      (∀ e ∈ entries, (g e).isSome) ∧ entries.filterMap g = found := by
  induction entries generalizing found with
  | nil => simp [pure, Except.pure]
  | cons e entries ih =>
    rw [List.mapM_cons, List.forall_mem_cons]
    cases hf : f e with
    | error misfit =>
      have hnone : ¬ (g e).isSome := by
        intro hsome
        rw [(h e _).2 (Option.some_get hsome).symm] at hf
        cases hf
      simp [hnone, bind, Except.bind]
    | ok first =>
      have hg := (h e first).1 hf
      rw [List.filterMap_cons_some hg]
      cases hrest : entries.mapM f with
      | error misfit =>
        have hnot : ¬ ∀ e ∈ entries, (g e).isSome := by
          intro hall
          rw [(ih _).2 ⟨hall, rfl⟩] at hrest
          cases hrest
        simp [hnot, bind, Except.bind]
      | ok rest =>
        obtain ⟨hall, rfl⟩ := (ih rest).1 hrest
        simp only [bind, Except.bind, pure, Except.pure, Except.ok.injEq, hg, Option.isSome_some,
          true_and, and_iff_right hall]

theorem labels_eq_ok_iff {named : Named} {place : Place} {n : Node} {found : Labels} :
    labels named place n = .ok found ↔ ∃ entries, n.target named = .mapping entries ∧
      (∀ e ∈ entries, (texts named e).isSome) ∧
      Labels.empty.insertAll (entries.filterMap (texts named)) = found := by
  unfold labels
  cases hn : n.target named with
  | mapping entries =>
    change (entries.mapM (entry named place) >>= fun found => .ok (Labels.empty.insertAll found))
      = .ok found ↔ _
    have hread := mapM_eq_ok_iff (entry_eq_ok_iff named place) entries
    cases hmap : entries.mapM (entry named place) with
    | error misfit =>
      have hnot : ¬ ∀ e ∈ entries, (texts named e).isSome := by
        intro hall
        rw [(hread _).2 ⟨hall, rfl⟩] at hmap
        cases hmap
      simp only [bind, Except.bind, reduceCtorEq, Node.mapping.injEq, exists_eq_left', hnot, false_and]
    | ok texts =>
      obtain ⟨hall, rfl⟩ := (hread texts).1 hmap
      simp only [bind, Except.bind, Except.ok.injEq, Node.mapping.injEq, exists_eq_left', and_iff_right hall]
  | _ => simp [refuse_ne_ok]

/-- Of the entries with a text, those with a key. -/
theorem filter_texts (named : Named) (entries : List (Node × Node)) (name : Text) :
    (entries.filterMap (texts named)).filter (·.1 == name)
      = (entries.filter (·.1.text? named == some name)).filterMap (texts named) := by
  rw [List.filter_filterMap, List.filterMap_filter]
  congr 1
  funext e
  unfold texts
  cases e.1.text? named with
  | none => simp
  | some key =>
    cases e.2.text? named with
    | none => simp
    | some value => by_cases hname : key = name <;> simp [hname]

@[simp] theorem labels_orderless : labels.Orderless := by
  intro named named' n n' hn place found hfound place'
  rw [labels_eq_ok_iff] at hfound ⊢
  obtain ⟨entries, hentries, hall, rfl⟩ := hfound
  cases hn with
  | scalar h => cases h.symm.trans hentries
  | sequence h => cases h.symm.trans hentries
  | @mapping _ _ entries₀ middle entries' h h' horder hkeys hvalues =>
    obtain rfl := Node.mapping.inj (h.symm.trans hentries)
    have htexts : middle.map (texts named) = entries'.map (texts named') := by
      apply map_eq_of_forall₂
      refine (reordered_entries hkeys hvalues).imp ?_
      rintro e e' ⟨hkey, hvalue⟩
      rw [texts, texts, hkey, hvalue.text?]
    have hsame : middle.filterMap (texts named) = entries'.filterMap (texts named') := by
      have := congrArg (List.filterMap id) htexts
      simpa only [List.filterMap_map, Function.id_comp] using this
    refine ⟨entries', h', ?all, ?same⟩
    case all =>
      intro e' he'
      have hmem : texts named' e' ∈ middle.map (texts named) :=
        htexts ▸ List.mem_map_of_mem he'
      obtain ⟨e, he, heq⟩ := List.mem_map.1 hmem
      rw [← heq]
      exact hall e (horder.perm.mem_iff.2 he)
    case same =>
      rw [← hsame]
      apply Labels.insertAll_congr
      intro name
      rw [filter_texts, filter_texts, horder.stable]

end Decoder

/-! ## Sections -/

/-- What a node does to a section is not up to the order of keys, nor to where it stands. -/
def Field.Orderless {σ : Type} (f : Field σ) : Prop :=
  ∀ {named named' n n'}, Reordered named named' n n' → ∀ {place x y},
    f.decode named place n x = .ok y → ∀ place', f.decode named' place' n' x = .ok y

@[simp] theorem Field.orderless_of {σ α : Type} {name : String} {decoder : Decoder α} {put : α → σ → σ}
    (h : decoder.Orderless) : (Field.of name decoder put).Orderless := by
  intro named named' n n' hn place x y hy place'
  obtain ⟨value, hvalue, rfl⟩ := decode_of_eq_ok hy
  exact sets_of (h hn hvalue place') x

theorem exists_of_forall₂ {α β : Type} {R : α → β → Prop} {as : List α} {bs : List β}
    (h : List.Forall₂ R as bs) {a : α} (ha : a ∈ as) : ∃ b ∈ bs, R a b := by
  induction h with
  | nil => cases ha
  | @cons a' b' as bs hab _ ih =>
    rcases List.mem_cons.1 ha with rfl | ha
    · exact ⟨b', List.mem_cons_self, hab⟩
    · obtain ⟨b, hb, hab⟩ := ih ha
      exact ⟨b, List.mem_cons_of_mem b' hb, hab⟩

namespace Section

variable {σ : Type} {s : Section σ} {named named' : Named} {place place' : Place}

theorem decodeItems_orderless {nodes nodes' : List Node}
    (hnodes : List.Forall₂ (Reordered named named') nodes nodes') {fields : List (Field σ)}
    (hfields : ∀ f ∈ fields, f.Orderless) {index : Nat} {x y : σ}
    (h : decodeItems named place index fields nodes x = .ok y) :
    decodeItems named' place' index fields nodes' x = .ok y := by
  induction hnodes generalizing fields index x with
  | nil => cases fields <;> exact h
  | @cons node node' nodes nodes' hnode _ ih =>
    cases fields with
    | nil => cases h
    | cons f fields =>
      rw [List.forall_mem_cons] at hfields
      unfold decodeItems at h ⊢
      cases hdecode : f.decode named (.item index :: place) node x with
      | error misfit => simp [hdecode, bind, Except.bind] at h
      | ok z =>
        rw [hdecode] at h
        rw [hfields.1 hnode hdecode]
        exact ih hfields.2 h

/-- A field does the same in reordered mappings. -/
theorem exists_effect_of_reordered (hs : s.Regular) (hfields : ∀ f ∈ s.fields, f.Orderless)
    {entries entries' : List (Node × Node)}
    (hentries : ∀ e ∈ entries, ∃ e' ∈ entries',
      e.1.text? named = e'.1.text? named' ∧ Reordered named named' e.2 e'.2)
    (hentries' : ∀ e' ∈ entries', ∃ e ∈ entries, e.1.text? named = e'.1.text? named')
    {x y : σ} (h : s.decodeEntries named place [] entries x = .ok y) {f : Field σ}
    (hf : f ∈ s.fields) :
    ∃ g, f.Effect named place entries g ∧ f.Effect named' place' entries' g := by
  by_cases hgiven : ∃ e ∈ entries, e.1.text? named = some f.name
  · obtain ⟨e, he, hkey⟩ := hgiven
    obtain ⟨f', hf', hkey', g, hg⟩ := sets_of_decodeEntries hs.uniform h e he
    have hsame : f = f' := by
      rw [hkey, Option.some.injEq] at hkey'
      rw [← hkey', field?_of_mem hs.distinct hf] at hf'
      exact Option.some.inj hf'
    subst hsame
    obtain ⟨e', he', heq, hvalue⟩ := hentries e he
    exact ⟨g, .given he hkey hg, .given he' (heq ▸ hkey) fun x => hfields f hf hvalue (hg x) _⟩
  · refine ⟨id, .absent ?_, .absent ?_⟩
    · intro e he hkey
      exact hgiven ⟨e, he, hkey⟩
    · intro e' he' hkey
      obtain ⟨e, he, heq⟩ := hentries' e' he'
      exact hgiven ⟨e, he, heq.trans hkey⟩

/-- A section whose fields do not look at the order of keys does not either. -/
theorem orderless (hs : s.Regular) (hfields : ∀ f ∈ s.fields, f.Orderless) (defaults : σ) :
    (s.decode defaults).Orderless := by
  intro named named' n n' hn place y hy place'
  cases hn with
  | scalar h => simp only [decode, h] at hy; exact absurd hy Decoder.refuse_ne_ok
  | sequence h h' hitems =>
    simp only [decode, h, h'] at hy ⊢
    exact decodeItems_orderless hitems hfields hy
  | @mapping _ _ entries middle entries' h h' horder hkeys hvalues =>
    simp only [decode, h] at hy
    have hpairs := reordered_entries hkeys hvalues
    have hentries : ∀ e ∈ entries, ∃ e' ∈ entries',
        e.1.text? named = e'.1.text? named' ∧ Reordered named named' e.2 e'.2 :=
      fun e he => exists_of_forall₂ hpairs (horder.perm.mem_iff.1 he)
    have hentries' : ∀ e' ∈ entries', ∃ e ∈ entries, e.1.text? named = e'.1.text? named' := by
      intro e' he'
      obtain ⟨e, he, heq, -⟩ := exists_of_forall₂ hpairs.flip he'
      exact ⟨e, horder.perm.mem_iff.2 he, heq⟩
    have heffects : ∀ f ∈ s.fields, ∃ g, f.Effect named place entries g ∧
        f.Effect named' place' entries' g :=
      fun f hf => exists_effect_of_reordered hs hfields hentries hentries' hy hf
    have : Nonempty (σ → σ) := ⟨id⟩
    choose! effect heffect using heffects
    have hproper := (proper_of_decodeEntries hy).1
    have hproper' : ProperKeys named' s.names entries' := by
      constructor
      · intro e' he'
        obtain ⟨e, he, heq⟩ := hentries' e' he'
        exact heq ▸ hproper.known e he
      · have hmap : middle.map (·.1.text? named) = entries'.map (·.1.text? named') :=
          map_eq_of_forall₂ (hpairs.imp fun _ _ => And.left)
        rw [← hmap]
        exact (horder.perm.map _).nodup_iff.1 hproper.distinct
    have hforall : ∀ {R : Field σ → (σ → σ) → Prop}, (∀ f ∈ s.fields, R f (effect f)) →
        List.Forall₂ R s.fields (s.fields.map effect) := by
      intro R hR
      rw [List.forall₂_map_right_iff, List.forall₂_same]
      exact hR
    rw [decodeEntries_of_effects hs (hforall fun f hf => (heffect f hf).1) hproper (by simp)] at hy
    rw [decode_of_effects hs h' (hforall fun f hf => (heffect f hf).2) hproper', hy]

end Section

end Document

end ServerTelemetry
