import ServerTelemetry.Proofs.Configuration.Overlay
import ServerTelemetry.Proofs.Document.Fault

/-!
# Keys that are no settings

A document may go like one that is read up to some key, wherever the section of the key is (`WithKey`).
If the key is no field of the section it is refused as unknown (`WithKey.refuses`), whatever comes after
it.
-/

namespace ServerTelemetry.Configuration

open Document Yaml

namespace Part

variable {p q : Part} {name : String}

theorem field?_eq_none {k : Text} (hk : k ∉ p.names) : p.asSection.field? k = none := by
  rw [← names_asSection] at hk
  refine List.find?_eq_none.2 fun f hf hname => hk ?_
  rw [← beq_iff_eq.1 hname]
  exact List.mem_map_of_mem hf

/-- The field that an item of a section is the value of. -/
theorem Holds.fields_getElem? (h : p.Holds name q) {index : Nat}
    (hindex : p.fields[index]? = some name) :
    ∃ put, p.asSection.fields[index]? = some (.of name q.decode put) := by
  obtain ⟨put, hfield⟩ := h.field?
  have hnames : p.asSection.names[index]? = some name.toList := by
    rw [names_asSection, List.getElem?_map, hindex, Option.map_some]
  rw [Section.names, List.getElem?_map] at hnames
  obtain ⟨f, hf, hname⟩ := Option.map_eq_some_iff.1 hnames
  have hsame := Section.field?_of_mem p.regular.distinct (List.mem_of_getElem? hf)
  rw [hname, hfield, Option.some.injEq] at hsame
  exact ⟨put, hsame ▸ hf⟩

end Part

/-! ## A key in a section -/

/-- From two nodes for a section, steps lead to a key in a section inside the second one. All that stands
in front of the key is in the first one too, and is the same but for the order of keys. What comes after
the key makes no difference. -/
inductive WithKey (named named' : Named) (k : Text) : Part → Part → Place → Node → Node → Prop
  /-- The key is in the section itself. -/
  | here {part : Part} {n n' key value : Node} {front rest front' rest' : List (Node × Node)}
      (h : n.target named = .mapping (front ++ rest))
      (h' : n'.target named' = .mapping (front' ++ (key, value) :: rest'))
      (hfront : SameEntries named named' front front') (hkey : key.text? named' = some k) :
    WithKey named named' k part part [] n n'
  /-- It is in a section under a key. -/
  | entry {p q part : Part} {name : String} {steps : Place} {n n' key child key' child' : Node}
      {front rest front' rest' : List (Node × Node)} (hq : p.Holds name q)
      (h : n.target named = .mapping (front ++ (key, child) :: rest))
      (h' : n'.target named' = .mapping (front' ++ (key', child') :: rest'))
      (hfront : SameEntries named named' front front') (hkey : key.text? named = some name.toList)
      (hkey' : key'.text? named' = some name.toList)
      (hchild : WithKey named named' k q part steps child child') :
    WithKey named named' k p part (steps ++ [key'.step name.toList]) n n'
  /-- It is in a section that is an item of a section. -/
  | item {p q part : Part} {name : String} {steps : Place} {n n' child child' : Node}
      {front rest front' rest' : List Node} (hq : p.Holds name q)
      (hindex : p.fields[front.length]? = some name)
      (h : n.target named = .sequence (front ++ child :: rest))
      (h' : n'.target named' = .sequence (front' ++ child' :: rest'))
      (hfront : List.Forall₂ (Reordered named named') front front')
      (hchild : WithKey named named' k q part steps child child') :
    WithKey named named' k p part (steps ++ [.item front.length]) n n'

theorem WithKey.refuses {named named' : Named} {k : Text} {p part : Part} {steps : Place}
    {n n' : Node} (h : WithKey named named' k p part steps n n') (hk : k ∉ part.names)
    (haccepts : p.decode.Accepts named n) :
    p.decode.Refuses named' n' steps (.unknownField k part.names) := by
  induction h with
  | @here p _ _ _ _ _ _ _ _ h h' hfront hkey =>
    rw [← p.names_asSection]
    exact Section.refuses_unknown p.orderless haccepts h h' hfront hkey (Part.field?_eq_none hk)
  | @entry p _ _ _ _ _ _ _ _ _ _ _ _ _ _ hq h h' hfront hkey hkey' _ ih =>
    obtain ⟨put, hfield⟩ := hq.field?
    exact Section.refuses_entry p.orderless haccepts h h' hfront hkey hkey' hfield (ih hk)
  | @item p _ _ _ _ _ _ _ _ _ _ _ _ hq hindex h h' hfront _ ih =>
    obtain ⟨put, hfield⟩ := hq.fields_getElem? hindex
    exact Section.refuses_item p.orderless haccepts h h' hfront hfield (ih hk)

/-- A document with a key that is no setting. -/
theorem WithKey.ofText_eq {named named' : Named} {k : Text} {part : Part} {place : Place}
    {root root' : Node} (h : WithKey named named' k .root part place root root')
    (hk : k ∉ part.names) {c : Configuration} (hc : Configuration.decode named root = .ok c)
    {s : Text} (hs : HasDocument s root' named') :
    ofText s = .error (.misfit ⟨place, .unknownField k part.names⟩) := by
  have herror : Configuration.decode named' root' = _ := h.refuses hk ⟨[], c, hc⟩ []
  rw [hs.ofText_eq, herror, List.append_nil]
  rfl

end ServerTelemetry.Configuration
