import ServerTelemetry.Proofs.Document.Reorder

/-!
# The first fault of a section

A section is read entry by entry, so what is wrong with one entry is what is wrong with the section,
if the entries in front of it are read (`Section.decodeEntries_front`). That may be a key that is no
field (`Section.refuses_unknown`), or what is wrong with the value of a field
(`Section.refuses_entry`), also where the values are given in sequence (`Section.refuses_item`).
-/

namespace ServerTelemetry.Document

open Yaml

/-- The decoder refuses a node, wherever it stands, for a fault that is some steps inside it. -/
def Decoder.Refuses {α : Type} (decoder : Decoder α) (named : Named) (node : Node) (steps : Place)
    (fault : Fault) : Prop :=
  ∀ place, decoder named place node = .error ⟨steps ++ place, fault⟩

/-- Entries with the same keys, one by one, and values that are the same but for the order of keys. -/
abbrev SameEntries (named named' : Named) (entries entries' : List (Node × Node)) : Prop :=
  List.Forall₂ (fun e e' => e.1.text? named = e'.1.text? named' ∧ Reordered named named' e.2 e'.2)
    entries entries'

namespace Field

variable {σ α : Type} {name : String} {decoder : Decoder α} {put : α → σ → σ} {named : Named}
  {place : Place}

theorem decode_of_error {node : Node} {misfit : Misfit}
    (h : decoder named place node = .error misfit) (x : σ) :
    (Field.of name decoder put).decode named place node x = .error misfit := by
  simp only [of, h, bind, Except.bind]

end Field

namespace Section

variable {σ α : Type} {s : Section σ} {named named' : Named} {place : Place}

/-! ## Mappings -/

theorem decodeEntries_unknown {name : Text} (hname : s.field? name = none) {key : Node}
    (hkey : key.text? named = some name) (node : Node) (entries : List (Node × Node))
    (seen : List Text) (x : σ) :
    s.decodeEntries named place seen ((key, node) :: entries) x
      = .error ⟨place, .unknownField name s.names⟩ := by
  rw [decodeEntries, Decoder.key_eq_ok_iff.2 ⟨hkey, rfl⟩]
  simp only [bind, Except.bind, hname, Decoder.fail]

theorem decodeEntries_known {name : Text} {f : Field σ} (hfield : s.field? name = some f) {key : Node}
    (hkey : key.text? named = some name) {seen : List Text} (hseen : name ∉ seen) (node : Node)
    (entries : List (Node × Node)) (x : σ) :
    s.decodeEntries named place seen ((key, node) :: entries) x
      = f.decode named (key.step name :: place) node x >>=
          s.decodeEntries named place (name :: seen) entries := by
  have hnew : seen.contains name = false := by simpa using hseen
  rw [decodeEntries, Decoder.key_eq_ok_iff.2 ⟨hkey, rfl⟩]
  simp only [bind, Except.bind, hfield, hnew, Bool.false_eq_true, ↓reduceIte]

/-- Entries in front that are read make no difference to the others but for what they put in and which
keys have been seen. -/
theorem decodeEntries_front (hs : ∀ f ∈ s.fields, f.Orderless) {front front' : List (Node × Node)}
    (hfront : SameEntries named named' front front') {rest : List (Node × Node)} {seen : List Text}
    {x y : σ} (h : s.decodeEntries named place seen (front ++ rest) x = .ok y) :
    ∃ seen' z, s.decodeEntries named place seen' rest z = .ok y ∧
      ∀ place' rest', s.decodeEntries named' place' seen (front' ++ rest') x
        = s.decodeEntries named' place' seen' rest' z := by
  induction hfront generalizing seen x with
  | nil => exact ⟨seen, x, h, fun _ _ => rfl⟩
  | @cons e e' front front' hentry _ ih =>
    obtain ⟨name, f, z, hkey, hfield, hseen, hdecode, hrest⟩ := decodeEntries_cons_eq_ok_iff.1 h
    obtain ⟨seen', w, hw, hsame⟩ := ih hrest
    refine ⟨seen', w, hw, fun place' rest' => ?_⟩
    have hvalue := hs f (field?_eq_some hfield).1 hentry.2 hdecode (e'.1.step name :: place')
    rw [List.cons_append, decodeEntries_known hfield (hentry.1 ▸ hkey) hseen, hvalue]
    exact hsame place' rest'

/-- A key that is no field, after entries that are read. -/
theorem refuses_unknown (hs : ∀ f ∈ s.fields, f.Orderless) {defaults : σ} {n n' : Node}
    (h : (s.decode defaults).Accepts named n) {front rest front' rest' : List (Node × Node)}
    (hn : n.target named = .mapping (front ++ rest)) {key value : Node}
    (hn' : n'.target named' = .mapping (front' ++ (key, value) :: rest'))
    (hfront : SameEntries named named' front front') {name : Text}
    (hkey : key.text? named' = some name) (hname : s.field? name = none) :
    (s.decode defaults).Refuses named' n' [] (.unknownField name s.names) := by
  obtain ⟨place, y, hy⟩ := h
  simp only [decode, hn] at hy
  obtain ⟨seen, z, -, hsame⟩ := decodeEntries_front hs hfront hy
  intro place'
  simp only [decode, hn', hsame, decodeEntries_unknown hname hkey, List.nil_append]

/-- A value that is refused, after entries that are read. -/
theorem refuses_entry (hs : ∀ f ∈ s.fields, f.Orderless) {defaults : σ} {n n' : Node}
    (h : (s.decode defaults).Accepts named n) {front rest front' rest' : List (Node × Node)}
    {key key' child child' : Node} (hn : n.target named = .mapping (front ++ (key, child) :: rest))
    (hn' : n'.target named' = .mapping (front' ++ (key', child') :: rest'))
    (hfront : SameEntries named named' front front') {name : String}
    (hkey : key.text? named = some name.toList) (hkey' : key'.text? named' = some name.toList)
    {decoder : Decoder α} {put : α → σ → σ}
    (hfield : s.field? name.toList = some (.of name decoder put)) {steps : Place} {fault : Fault}
    (hchild : decoder.Accepts named child → decoder.Refuses named' child' steps fault) :
    (s.decode defaults).Refuses named' n' (steps ++ [key'.step name.toList]) fault := by
  obtain ⟨place, y, hy⟩ := h
  simp only [decode, hn] at hy
  obtain ⟨seen, z, hrest, hsame⟩ := decodeEntries_front hs hfront hy
  obtain ⟨name', f, w, hname, hf, hseen, hdecode, -⟩ := decodeEntries_cons_eq_ok_iff.1 hrest
  obtain rfl := Option.some.inj (hkey.symm.trans hname)
  obtain rfl := Option.some.inj (hfield.symm.trans hf)
  obtain ⟨value, hvalue, -⟩ := Field.decode_of_eq_ok hdecode
  intro place'
  have herror := hchild ⟨_, value, hvalue⟩ (key'.step name.toList :: place')
  simp only [decode, hn', hsame, decodeEntries_known hfield hkey' hseen,
    Field.decode_of_error herror, bind, Except.bind, List.append_assoc, List.singleton_append]

/-! ## Sequences -/

theorem decodeItems_cons_eq_ok_iff {index : Nat} {fields : List (Field σ)} {node : Node}
    {nodes : List Node} {x y : σ} :
    decodeItems named place index fields (node :: nodes) x = .ok y ↔
      ∃ f fields' z, fields = f :: fields' ∧ f.decode named (.item index :: place) node x = .ok z ∧
        decodeItems named place (index + 1) fields' nodes z = .ok y := by
  cases fields with
  | nil => simp [decodeItems, Decoder.fail]
  | cons f fields =>
    rw [decodeItems]
    cases hdecode : f.decode named (.item index :: place) node x with
    | error misfit => simp [hdecode, bind, Except.bind]
    | ok z => simp [hdecode, bind, Except.bind]

/-- Items in front that are read make no difference to the others but for what they put in. -/
theorem decodeItems_front {front front' : List Node}
    (hfront : List.Forall₂ (Reordered named named') front front') {fields : List (Field σ)}
    (hfields : ∀ f ∈ fields, f.Orderless) {rest : List Node} {index : Nat} {x y : σ}
    (h : decodeItems named place index fields (front ++ rest) x = .ok y) :
    ∃ z, decodeItems named place (index + front.length) (fields.drop front.length) rest z = .ok y ∧
      ∀ place' rest', decodeItems named' place' index fields (front' ++ rest') x
        = decodeItems named' place' (index + front.length) (fields.drop front.length) rest' z := by
  induction hfront generalizing fields index x with
  | nil => exact ⟨x, h, fun _ _ => rfl⟩
  | @cons node node' front front' hnode _ ih =>
    obtain ⟨f, fields, z, rfl, hdecode, hrest⟩ := decodeItems_cons_eq_ok_iff.1 h
    rw [List.forall_mem_cons] at hfields
    obtain ⟨w, hw, hsame⟩ := ih hfields.2 hrest
    rw [Nat.add_right_comm, Nat.add_assoc] at hw
    refine ⟨w, hw, fun place' rest' => ?_⟩
    have hvalue := hfields.1 hnode hdecode (.item index :: place')
    rw [List.cons_append, decodeItems, hvalue]
    refine (hsame place' rest').trans ?_
    rw [Nat.add_right_comm, Nat.add_assoc]
    rfl

/-- A value that is refused, after items that are read. -/
theorem refuses_item (hs : ∀ f ∈ s.fields, f.Orderless) {defaults : σ} {n n' : Node}
    (h : (s.decode defaults).Accepts named n) {front rest front' rest' : List Node}
    {child child' : Node} (hn : n.target named = .sequence (front ++ child :: rest))
    (hn' : n'.target named' = .sequence (front' ++ child' :: rest'))
    (hfront : List.Forall₂ (Reordered named named') front front') {name : String}
    {decoder : Decoder α} {put : α → σ → σ}
    (hfield : s.fields[front.length]? = some (.of name decoder put)) {steps : Place} {fault : Fault}
    (hchild : decoder.Accepts named child → decoder.Refuses named' child' steps fault) :
    (s.decode defaults).Refuses named' n' (steps ++ [.item front.length]) fault := by
  obtain ⟨place, y, hy⟩ := h
  simp only [decode, hn] at hy
  obtain ⟨z, hrest, hsame⟩ := decodeItems_front hfront hs hy
  rw [Nat.zero_add] at hrest hsame
  obtain ⟨f, fields, w, hfields, hdecode, -⟩ := decodeItems_cons_eq_ok_iff.1 hrest
  have hf : s.fields[front.length]? = some f := by rw [← List.head?_drop, hfields, List.head?_cons]
  obtain rfl := Option.some.inj (hfield.symm.trans hf)
  obtain ⟨value, hvalue, -⟩ := Field.decode_of_eq_ok hdecode
  intro place'
  have herror := hchild ⟨_, value, hvalue⟩ (.item front.length :: place')
  simp only [decode, hn', hsame, hfields, decodeItems, Field.decode_of_error herror, bind,
    Except.bind, List.append_assoc, List.singleton_append]

end Section

end ServerTelemetry.Document
