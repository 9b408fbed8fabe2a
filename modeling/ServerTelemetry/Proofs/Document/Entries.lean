import Mathlib.Data.List.Forall2
import Mathlib.Data.List.Nodup
import ServerTelemetry.Document.Decoder

/-!
# The entries of a section

A section whose fields have nothing to do with each other (`Section.Regular`) is read out of a
mapping one field after another, in the order of the fields: each field changes the section by what
the mapping has under its name, wherever that stands (`Section.decodeEntries_of_effects`). A mapping
that is read has no other keys than the names of the fields, and none of them twice
(`Section.proper_of_decodeEntries`).
-/

namespace ServerTelemetry

namespace Yaml.Node

/-- The text of a scalar. -/
def text? (named : Named) (node : Node) : Option Text :=
  match node.target named with
  | .scalar text .. => some text
  | _ => none

/-- The step to the value of a key with a text. -/
def step (name : Text) : Node → Document.PlaceStep
  | .scalar .. => .key name
  | _ => .unnamed

end Yaml.Node

namespace Document

open Yaml

variable {named : Named} {place : Place}

/-! ## Keys -/

theorem Decoder.key_eq_ok_iff {expected name : Text} {node : Node} {step : PlaceStep} :
    Decoder.key expected named place node = .ok (name, step) ↔
      node.text? named = some name ∧ step = node.step name := by
  unfold key
  split
  case h_1 s plain tag =>
    simp only [Node.text?, Node.target, Node.step, Except.ok.injEq, Prod.mk.injEq,
      Option.some.injEq]
    constructor
    · rintro ⟨rfl, rfl⟩
      exact ⟨rfl, rfl⟩
    · rintro ⟨rfl, rfl⟩
      exact ⟨rfl, rfl⟩
  case h_2 hscalar =>
    have hstep : node.step name = .unnamed := by
      unfold Node.step
      split
      · exact absurd rfl (hscalar _ _ _)
      · rfl
    rw [hstep]
    cases htarget : node.target named <;>
      simp [Node.text?, htarget, refuse, content, fail, bind, Except.bind, eq_comm]

/-- The keys of the entries are some of the names, each once. -/
structure ProperKeys (named : Named) (names : List Text) (entries : List (Node × Node)) : Prop where
  known : ∀ e ∈ entries, ∃ name ∈ names, e.1.text? named = some name
  distinct : (entries.map (·.1.text? named)).Nodup

/-! ## Fields -/

namespace Field

variable {σ α β : Type}

/-- What a node does to the section as the value of the field. -/
def Sets (f : Field σ) (named : Named) (place : Place) (node : Node) (g : σ → σ) : Prop :=
  ∀ x, f.decode named place node x = .ok (g x)

/-- Whether a node is read, and what it does, is not up to the section so far. -/
def Uniform (f : Field σ) : Prop :=
  ∀ {named place node x y}, f.decode named place node x = .ok y →
    ∃ g, f.Sets named place node g ∧ g x = y

/-- What values do to the section for two fields can be done in any order. -/
def Independent (f f' : Field σ) : Prop :=
  ∀ {named place node place' node' g g'}, f.Sets named place node g →
    f'.Sets named place' node' g' → ∀ x, g (g' x) = g' (g x)

/-- What the entries of a mapping do to the section for a field. -/
inductive Effect (named : Named) (place : Place) (entries : List (Node × Node)) (f : Field σ) :
    (σ → σ) → Prop
  | absent (h : ∀ e ∈ entries, e.1.text? named ≠ some f.name) : Effect named place entries f id
  | given {key node : Node} {g : σ → σ} (hmem : (key, node) ∈ entries)
      (hkey : key.text? named = some f.name)
      (hset : f.Sets named (key.step f.name :: place) node g) : Effect named place entries f g

variable {name : String} {decoder : Decoder α} {put : α → σ → σ}

theorem decode_of_eq_ok {node : Node} {x y : σ}
    (h : (Field.of name decoder put).decode named place node x = .ok y) :
    ∃ value, decoder named place node = .ok value ∧ put value x = y := by
  cases hvalue : decoder named place node with
  | error e => simp [of, hvalue, bind, Except.bind] at h
  | ok value =>
    simp only [of, hvalue, bind, Except.bind, pure, Except.pure, Except.ok.injEq] at h
    exact ⟨value, rfl, h⟩

theorem sets_of {node : Node} {value : α} (h : decoder named place node = .ok value) :
    (Field.of name decoder put).Sets named place node (put value) := by
  intro x
  simp only [of, h]
  rfl

@[simp] theorem uniform_of : (Field.of name decoder put).Uniform := by
  intro named place node x y h
  obtain ⟨value, hvalue, rfl⟩ := decode_of_eq_ok h
  exact ⟨put value, sets_of hvalue, rfl⟩

@[simp] theorem independent_of {name' : String} {decoder' : Decoder β} {put' : β → σ → σ}
    (h : ∀ a b x, put a (put' b x) = put' b (put a x)) :
    (Field.of name decoder put).Independent (Field.of name' decoder' put') := by
  intro named place node place' node' g g' hset hset' x
  have put_eq : ∀ {a : α}, decoder named place node = .ok a → ∀ z, put a z = g z := by
    intro a ha z
    exact Except.ok.inj ((sets_of ha z).symm.trans (hset z))
  have put_eq' : ∀ {b : β}, decoder' named place' node' = .ok b → ∀ z, put' b z = g' z := by
    intro b hb z
    exact Except.ok.inj ((sets_of hb z).symm.trans (hset' z))
  obtain ⟨a, ha, -⟩ := decode_of_eq_ok (hset x)
  obtain ⟨b, hb, -⟩ := decode_of_eq_ok (hset' x)
  simp only [← put_eq ha, ← put_eq' hb, h]

end Field

/-! ## Sections -/

namespace Section

variable {σ : Type} {s : Section σ}

/-- Every field has a name of its own and puts a value of its own, whatever the others are. -/
structure Regular (s : Section σ) : Prop where
  distinct : s.names.Nodup
  uniform : ∀ f ∈ s.fields, f.Uniform
  independent : s.fields.Pairwise Field.Independent

theorem field?_eq_some {name : Text} {f : Field σ} (h : s.field? name = some f) :
    f ∈ s.fields ∧ f.name = name := by
  unfold field? at h
  have hname := List.find?_some h
  exact ⟨List.mem_of_find?_eq_some h, by simpa using hname⟩

theorem decodeEntries_cons_eq_ok_iff {key node : Node} {entries : List (Node × Node)}
    {seen : List Text} {x y : σ} :
    s.decodeEntries named place seen ((key, node) :: entries) x = .ok y ↔
      ∃ name f z, key.text? named = some name ∧ s.field? name = some f ∧ name ∉ seen ∧
        f.decode named (key.step name :: place) node x = .ok z ∧
        s.decodeEntries named place (name :: seen) entries z = .ok y := by
  rw [decodeEntries]
  cases hkey : Decoder.key "field identifier".toList named place key with
  | error e =>
    have hnone : ∀ name, key.text? named ≠ some name := by
      intro name hname
      rw [Decoder.key_eq_ok_iff.2 ⟨hname, rfl⟩] at hkey
      cases hkey
    simp [hnone, bind, Except.bind]
  | ok result =>
    obtain ⟨name, step⟩ := result
    obtain ⟨hname, rfl⟩ := Decoder.key_eq_ok_iff.1 hkey
    cases hfield : s.field? name with
    | none => simp [hname, hfield, bind, Except.bind, Decoder.fail]
    | some f =>
      by_cases hseen : name ∈ seen
      · simp [hname, hfield, hseen, bind, Except.bind, Decoder.fail]
      · cases hdecode : f.decode named (key.step name :: place) node x with
        | error e => simp [hname, hfield, hseen, hdecode, bind, Except.bind]
        | ok z => simp [hname, hfield, hseen, hdecode, bind, Except.bind]

/-- A mapping that is read has no key but the names of the fields, and each once. -/
theorem proper_of_decodeEntries {entries : List (Node × Node)} {seen : List Text} {x y : σ}
    (h : s.decodeEntries named place seen entries x = .ok y) :
    ProperKeys named s.names entries ∧
      ∀ e ∈ entries, ∀ name ∈ seen, e.1.text? named ≠ some name := by
  induction entries generalizing seen x with
  | nil => exact ⟨⟨by simp, List.nodup_nil⟩, by simp⟩
  | cons e entries ih =>
    obtain ⟨name, f, z, hname, hfield, hseen, -, hrest⟩ := decodeEntries_cons_eq_ok_iff.1 h
    obtain ⟨⟨hknown, hdistinct⟩, hnew⟩ := ih hrest
    obtain ⟨hf, rfl⟩ := field?_eq_some hfield
    refine ⟨⟨?known, ?distinct⟩, ?unseen⟩
    case known =>
      rw [List.forall_mem_cons]
      exact ⟨⟨f.name, List.mem_map_of_mem hf, hname⟩, hknown⟩
    case distinct =>
      rw [List.map_cons, List.nodup_cons]
      refine ⟨?_, hdistinct⟩
      intro hmem
      obtain ⟨e', he', heq⟩ := List.mem_map.1 hmem
      exact hnew e' he' f.name List.mem_cons_self (heq.trans hname)
    case unseen =>
      rw [List.forall_mem_cons]
      constructor
      · intro other hother heq
        obtain rfl := Option.some.inj (hname.symm.trans heq)
        exact hseen hother
      · intro e' he' other hother
        exact hnew e' he' other (List.mem_cons_of_mem f.name hother)

/-- Every value in a mapping that is read does something to the section. -/
theorem sets_of_decodeEntries (hs : ∀ f ∈ s.fields, f.Uniform) {entries : List (Node × Node)}
    {seen : List Text} {x y : σ} (h : s.decodeEntries named place seen entries x = .ok y) :
    ∀ e ∈ entries, ∃ f, s.field? f.name = some f ∧ e.1.text? named = some f.name ∧
      ∃ g, f.Sets named (e.1.step f.name :: place) e.2 g := by
  induction entries generalizing seen x with
  | nil => simp
  | cons e entries ih =>
    obtain ⟨name, f, z, hname, hfield, -, hdecode, hrest⟩ := decodeEntries_cons_eq_ok_iff.1 h
    obtain ⟨hf, rfl⟩ := field?_eq_some hfield
    obtain ⟨g, hg, -⟩ := hs f hf hdecode
    rw [List.forall_mem_cons]
    exact ⟨⟨f, hfield, hname, g, hg⟩, ih hrest⟩

/-! ### Fields in order -/

/-- Does one thing after another to a section. -/
def applyAll (effects : List (σ → σ)) (x : σ) : σ :=
  effects.foldl (fun x g => g x) x

theorem applyAll_append (effects effects' : List (σ → σ)) (x : σ) :
    applyAll (effects ++ effects') x = applyAll effects' (applyAll effects x) :=
  List.foldl_append

/-- What is done for one field can as well be done before all that is done for others. -/
theorem applyAll_comm {entries : List (Node × Node)} {fields : List (Field σ)}
    {effects : List (σ → σ)}
    (h : List.Forall₂ (Field.Effect named place entries) fields effects) {f : Field σ}
    (hf : ∀ f' ∈ fields, f'.Independent f) {place' : Place} {node : Node} {g : σ → σ}
    (hg : f.Sets named place' node g) (x : σ) : g (applyAll effects x) = applyAll effects (g x) := by
  induction h generalizing x with
  | nil => rfl
  | @cons f' g' fields effects hg' _ ih =>
    rw [List.forall_mem_cons] at hf
    have hcomm : g (g' x) = g' (g x) := by
      cases hg' with
      | absent => rfl
      | given _ _ hset => exact (hf.1 hset hg x).symm
    calc g (applyAll effects (g' x)) = applyAll effects (g (g' x)) := ih hf.2 (g' x)
      _ = applyAll effects (g' (g x)) := by rw [hcomm]

theorem field?_of_mem (hs : s.names.Nodup) {f : Field σ} (hf : f ∈ s.fields) :
    s.field? f.name = some f := by
  unfold names at hs
  unfold field?
  generalize s.fields = fields at hs hf
  induction fields with
  | nil => cases hf
  | cons f' fields ih =>
    rw [List.map_cons, List.nodup_cons] at hs
    rcases List.mem_cons.1 hf with rfl | hf
    · simp
    · have hne : f'.name ≠ f.name := fun he => hs.1 (he ▸ List.mem_map_of_mem hf)
      rw [List.find?_cons_of_neg (by simpa using hne)]
      exact ih hs.2 hf

/-- Without the entry of one field, the others have the same effects. -/
theorem effect_of_cons {e : Node × Node} {entries : List (Node × Node)} {f : Field σ} {g : σ → σ}
    (hne : e.1.text? named ≠ some f.name) (h : f.Effect named place (e :: entries) g) :
    f.Effect named place entries g := by
  cases h with
  | absent h => exact .absent (List.forall_mem_cons.1 h).2
  | given hmem hkey hset =>
    rcases List.mem_cons.1 hmem with rfl | hmem
    · exact absurd hkey hne
    · exact .given hmem hkey hset

theorem applyAll_of_nil {fields : List (Field σ)} {effects : List (σ → σ)}
    (h : List.Forall₂ (Field.Effect named place []) fields effects) (x : σ) :
    applyAll effects x = x := by
  induction h with
  | nil => rfl
  | cons hg _ ih =>
    cases hg with
    | absent => exact ih
    | given hmem => cases hmem

/-- The effect of one field among those of all. -/
theorem exists_effect {R : Field σ → (σ → σ) → Prop} {fields : List (Field σ)}
    {effects : List (σ → σ)} (h : List.Forall₂ R fields effects) {f : Field σ} (hf : f ∈ fields) :
    ∃ before after done g left, fields = before ++ f :: after ∧ effects = done ++ g :: left ∧
      List.Forall₂ R before done ∧ R f g ∧ List.Forall₂ R after left := by
  induction h with
  | nil => cases hf
  | @cons f' g' fields effects hg hrest ih =>
    rcases List.mem_cons.1 hf with rfl | hf
    · exact ⟨[], fields, [], g', effects, rfl, rfl, .nil, hg, hrest⟩
    · obtain ⟨before, after, done, g, left, rfl, rfl, hbefore, hf, hafter⟩ := ih hf
      exact ⟨f' :: before, after, g' :: done, g, left, rfl, rfl, .cons hg hbefore, hf, hafter⟩

/-- What the first entry does can be done first, and the other entries do the rest. -/
theorem effects_of_cons (hs : s.Regular) {e : Node × Node} {entries : List (Node × Node)}
    {effects : List (σ → σ)}
    (heffects : List.Forall₂ (Field.Effect named place (e :: entries)) s.fields effects)
    {f : Field σ} (hf : f ∈ s.fields) (hkey : e.1.text? named = some f.name)
    (hother : ∀ e' ∈ entries, e'.1.text? named ≠ some f.name) :
    ∃ g rest, f.Sets named (e.1.step f.name :: place) e.2 g ∧
      List.Forall₂ (Field.Effect named place entries) s.fields rest ∧
      ∀ x, applyAll rest (g x) = applyAll effects x := by
  obtain ⟨before, after, done, g, left, hfields, rfl, hbefore, hg, hafter⟩ :=
    exists_effect heffects hf
  have hset : f.Sets named (e.1.step f.name :: place) e.2 g := by
    cases hg with
    | absent h => exact absurd hkey (List.forall_mem_cons.1 h).1
    | given hmem hkey' hset =>
      rcases List.mem_cons.1 hmem with rfl | hmem
      · exact hset
      · exact absurd hkey' (hother _ hmem)
  -- The entry is no other field's, as the names of the fields are different.
  have hne : ∀ f' ∈ before ++ after, e.1.text? named ≠ some f'.name := by
    have hdistinct := hs.distinct
    rw [names, hfields, List.map_append, List.map_cons, List.nodup_middle, ← List.map_append,
      List.nodup_cons] at hdistinct
    intro f' hf' heq
    rw [hkey, Option.some.injEq] at heq
    exact hdistinct.1 (heq ▸ List.mem_map_of_mem hf')
  rw [List.forall_mem_append] at hne
  have hbefore' : List.Forall₂ (Field.Effect named place entries) before done :=
    ((List.forall₂_and_left before done).2 ⟨hne.1, hbefore⟩).imp
      fun _ _ h => effect_of_cons h.1 h.2
  have hafter' : List.Forall₂ (Field.Effect named place entries) after left :=
    ((List.forall₂_and_left after left).2 ⟨hne.2, hafter⟩).imp
      fun _ _ h => effect_of_cons h.1 h.2
  refine ⟨g, done ++ id :: left, hset, ?rest, ?same⟩
  case rest =>
    rw [hfields]
    exact List.rel_append hbefore' (.cons (.absent hother) hafter')
  case same =>
    intro x
    have hindependent := hs.independent
    rw [hfields, List.pairwise_append] at hindependent
    have hcomm : g (applyAll done x) = applyAll done (g x) :=
      applyAll_comm hbefore (fun f' hf' => hindependent.2.2 f' hf' f List.mem_cons_self) hset x
    rw [applyAll_append, applyAll_append, ← hcomm]
    rfl

/-- The entries of a mapping change a section field by field. -/
theorem decodeEntries_of_effects (hs : s.Regular) {entries : List (Node × Node)}
    {effects : List (σ → σ)}
    (heffects : List.Forall₂ (Field.Effect named place entries) s.fields effects)
    (hkeys : ProperKeys named s.names entries) {seen : List Text}
    (hseen : ∀ e ∈ entries, ∀ name ∈ seen, e.1.text? named ≠ some name) (x : σ) :
    s.decodeEntries named place seen entries x = .ok (applyAll effects x) := by
  induction entries generalizing effects seen x with
  | nil => rw [applyAll_of_nil heffects, decodeEntries]
  | cons e entries ih =>
    obtain ⟨hknown, hdistinct⟩ := hkeys
    rw [List.forall_mem_cons] at hknown hseen
    rw [List.map_cons, List.nodup_cons] at hdistinct
    obtain ⟨⟨name, hname, hkey⟩, hknown⟩ := hknown
    obtain ⟨f, hf, rfl⟩ := List.mem_map.1 hname
    have hother : ∀ e' ∈ entries, e'.1.text? named ≠ some f.name := by
      intro e' he' heq
      exact hdistinct.1 (List.mem_map.2 ⟨e', he', heq.trans hkey.symm⟩)
    obtain ⟨g, rest, hset, hrest, hsame⟩ := effects_of_cons hs heffects hf hkey hother
    have hunseen : f.name ∉ seen := fun hmem => hseen.1 f.name hmem hkey
    have hseen' : ∀ e' ∈ entries, ∀ name ∈ f.name :: seen, e'.1.text? named ≠ some name :=
      fun e' he' => List.forall_mem_cons.2 ⟨hother e' he', hseen.2 e' he'⟩
    rw [← hsame]
    exact decodeEntries_cons_eq_ok_iff.2 ⟨f.name, f, g x, hkey, field?_of_mem hs.distinct hf,
      hunseen, hset x, ih hrest ⟨hknown, hdistinct.2⟩ hseen' (g x)⟩

/-- A section in a mapping is its defaults, changed field by field. -/
theorem decode_of_effects (hs : s.Regular) {node : Node} {entries : List (Node × Node)}
    (hnode : node.target named = .mapping entries) {effects : List (σ → σ)}
    (heffects : List.Forall₂ (Field.Effect named place entries) s.fields effects)
    (hkeys : ProperKeys named s.names entries) (defaults : σ) :
    s.decode defaults named place node = .ok (applyAll effects defaults) := by
  simp only [decode, hnode]
  exact decodeEntries_of_effects hs heffects hkeys (by simp) defaults

end Section

/-! ## Sections inside sections -/

/-- The decoder reads something out of the node, at some place. -/
def Decoder.Accepts {α : Type} (decoder : Decoder α) (named : Named) (node : Node) : Prop :=
  ∃ place x, decoder named place node = .ok x

/-- The nodes that keys lead to, one inside the other. -/
inductive Reaches (named : Named) : List Text → Node → Node → Prop
  | here {node : Node} : Reaches named [] node node
  | under {node key value inner : Node} {entries : List (Node × Node)} {name : Text}
      {path : List Text} (hnode : node.target named = .mapping entries)
      (hmem : (key, value) ∈ entries) (hkey : key.text? named = some name)
      (hvalue : Reaches named path value inner) : Reaches named (name :: path) node inner

theorem reaches_append_iff {path path' : List Text} {root node : Node} :
    Reaches named (path ++ path') root node ↔
      ∃ middle, Reaches named path root middle ∧ Reaches named path' middle node := by
  induction path generalizing root with
  | nil =>
    constructor
    · intro h
      exact ⟨root, .here, h⟩
    · rintro ⟨_, ⟨⟩, h⟩
      exact h
  | cons name path ih =>
    constructor
    · rintro (_ | ⟨hnode, hmem, hkey, hvalue⟩)
      obtain ⟨middle, hmiddle, hinner⟩ := ih.1 hvalue
      exact ⟨middle, .under hnode hmem hkey hmiddle, hinner⟩
    · rintro ⟨middle, _ | ⟨hnode, hmem, hkey, hvalue⟩, hinner⟩
      exact .under hnode hmem hkey (ih.2 ⟨middle, hvalue, hinner⟩)

namespace Section

variable {σ α : Type} {s : Section σ}

theorem proper_of_accepts {defaults : σ} {node : Node} {entries : List (Node × Node)}
    (h : (s.decode defaults).Accepts named node) (hnode : node.target named = .mapping entries) :
    ProperKeys named s.names entries := by
  obtain ⟨place, x, hx⟩ := h
  simp only [decode, hnode] at hx
  exact (proper_of_decodeEntries hx).1

/-- In a section that is read, what has the name of a field is read as its value. -/
theorem accepts_of_reaches {name : String} {decoder : Decoder α} {put : α → σ → σ}
    (hfield : s.field? name.toList = some (.of name decoder put))
    (hs : ∀ f ∈ s.fields, f.Uniform) {defaults : σ} {path : List Text} {node inner : Node}
    (h : (s.decode defaults).Accepts named node)
    (hpath : Reaches named (name.toList :: path) node inner) :
    ∃ value, decoder.Accepts named value ∧ Reaches named path value inner := by
  obtain ⟨place, x, hx⟩ := h
  cases hpath with
  | @under _ key value _ entries _ _ hnode hmem hkey hvalue =>
    simp only [decode, hnode] at hx
    obtain ⟨f, hf, hname, g, hg⟩ := sets_of_decodeEntries hs hx _ hmem
    rw [hkey, Option.some.injEq] at hname
    rw [← hname, hfield, Option.some.injEq] at hf
    subst hf
    obtain ⟨v, hv, -⟩ := Field.decode_of_eq_ok (hg x)
    exact ⟨value, ⟨_, v, hv⟩, hvalue⟩

end Section

end Document

end ServerTelemetry
