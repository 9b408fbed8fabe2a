import Mathlib.Data.List.Forall2
import Mathlib.Data.List.Nodup
import ServerTelemetry.Proofs.Schema.Allows

/-!
# What the parts of a schema allow

The schema of a property allows what its shape allows (`allows_propertyValue_iff`), and the schema of
a section allows the records of properties that are listed, each with a value that is allowed for it
(`allows_recordFields_iff`). It forbids all other keys (`forbids_recordFields_iff`), whereas labels
may have any.
-/

namespace ServerTelemetry.Schema

open ServerTelemetry.Configuration (recordOf)

variable {definitions : List (Text × Value)} {ahead : List Text}

/-! ## Keywords -/

/-- What a keyword says about a value, beside schemas for some properties. -/
def Says (definitions : List (Text × Value)) (ahead : List Text) (properties : List (Text × Value))
    (keyword : String × Value) (value : Value) : Prop :=
  ∃ k, Keyword.ofName? keyword.1.toList = some k ∧
    k.Holds properties keyword.2 value (fun s _ => Allows definitions ahead s value)
      (fun s x _ => Allows definitions (namesOf definitions) s x)

theorem allows_recordOf_iff {keywords : List (String × Value)} {value : Value}
    (h : (recordOf keywords).fields.lookup "$ref".toList = none) :
    Allows definitions ahead (recordOf keywords) value ↔ ∀ k ∈ keywords,
      Says definitions ahead (propertiesAmong (recordOf keywords).fields) k value :=
  (allows_record_iff h).trans List.forall_mem_map

section Says

variable {properties : List (Text × Value)} {name : String} {operand value : Value}

theorem says_iff (k : Keyword) (h : Keyword.ofName? name.toList = some k) :
    Says definitions ahead properties (name, operand) value ↔
      k.Holds properties operand value (fun s _ => Allows definitions ahead s value)
        (fun s x _ => Allows definitions (namesOf definitions) s x) := by
  simp only [Says, h, Option.some.injEq, exists_eq_left']

theorem says_remark (h : Keyword.ofName? name.toList = some .remark) :
    Says definitions ahead properties (name, operand) value :=
  (says_iff .remark h).2 trivial

theorem says_type_iff : Says definitions ahead properties ("type", operand) value ↔
    .text value.typeName ∈ operand :: operand.items :=
  says_iff .type rfl

theorem says_typed_iff {type : String} : Says definitions ahead properties (typed type) value ↔
    value.typeName = type.toList := by
  rw [typed, says_type_iff, ← Value.text.injEq]
  exact List.mem_singleton

theorem says_enum_iff : Says definitions ahead properties ("enum", operand) value ↔
    value ∈ operand.items :=
  says_iff .enum rfl

theorem says_allOf_iff : Says definitions ahead properties ("allOf", operand) value ↔
    ∀ s ∈ operand.items, Allows definitions ahead s value :=
  says_iff .allOf rfl

theorem says_oneOf_iff {schemas : List Value} :
    Says definitions ahead properties ("oneOf", .list schemas) value ↔
      ∃! i : Fin schemas.length, Allows definitions ahead schemas[i] value :=
  says_iff .oneOf rfl

theorem says_items_iff : Says definitions ahead properties ("items", operand) value ↔
    ∀ x ∈ value.items, Allows definitions (namesOf definitions) operand x :=
  says_iff .items rfl

theorem says_properties_iff : Says definitions ahead properties ("properties", operand) value ↔
    ∀ f ∈ value.fields, ∀ s, operand.fields.lookup f.1 = some s →
      Allows definitions (namesOf definitions) s f.2 :=
  says_iff .properties rfl

theorem says_additionalProperties_iff :
    Says definitions ahead properties ("additionalProperties", operand) value ↔
      ∀ f ∈ value.fields, properties.lookup f.1 = none →
        Allows definitions (namesOf definitions) operand f.2 :=
  says_iff .additionalProperties rfl

end Says

/-! ## Shapes -/

theorem allows_flag (b : Bool) :
    Allows definitions ahead (recordOf (shapeFields .flag)) (.flag b) := by
  rw [allows_recordOf_iff rfl]
  exact List.forall_mem_singleton.2 (says_typed_iff.2 rfl)

theorem allows_text_iff {value : Value} :
    Allows definitions ahead (recordOf (shapeFields .text)) value ↔ ∃ s, value = .text s := by
  rw [allows_recordOf_iff rfl, shapeFields, List.forall_mem_singleton, says_typed_iff]
  cases value with
  | null => exact iff_of_false (by decide : "null".toList ≠ "string".toList) nofun
  | flag b => exact iff_of_false (by decide : "boolean".toList ≠ "string".toList) nofun
  | text s => exact iff_of_true rfl ⟨s, rfl⟩
  | list items => exact iff_of_false (by decide : "array".toList ≠ "string".toList) nofun
  | record fields => exact iff_of_false (by decide : "object".toList ≠ "string".toList) nofun

theorem allows_text (s : Text) :
    Allows definitions ahead (recordOf (shapeFields .text)) (.text s) :=
  allows_text_iff.2 ⟨s, rfl⟩

theorem allows_text? (s : Option Text) :
    Allows definitions ahead (recordOf (shapeFields .optionalText)) (.text? s) := by
  rw [allows_recordOf_iff rfl]
  refine List.forall_mem_singleton.2 (says_type_iff.2 (List.mem_cons_of_mem _ ?_))
  cases s with
  | none => exact List.mem_cons_of_mem _ List.mem_cons_self
  | some s => exact List.mem_cons_self

theorem allows_list {shape : Shape} {values : List Value}
    (h : ∀ v ∈ values, Allows definitions (namesOf definitions) (recordOf (shapeFields shape)) v) :
    Allows definitions ahead (recordOf (shapeFields (.list shape))) (.list values) := by
  rw [allows_recordOf_iff rfl]
  simp only [shapeFields, List.forall_mem_cons]
  exact ⟨says_typed_iff.2 rfl, says_items_iff.2 h, List.forall_mem_nil _⟩

theorem allows_texts (values : List Text) :
    Allows definitions ahead (recordOf (shapeFields (.list .text))) (.texts values) :=
  allows_list (List.forall_mem_map.2 fun s _ => allows_text s)

/-- Labels are records of texts, under any keys. -/
theorem allows_labels_iff {fields : List (Text × Value)} :
    Allows definitions ahead (recordOf (shapeFields .labels)) (.record fields) ↔
      ∀ f ∈ fields, ∃ s, f.2 = .text s := by
  rw [allows_recordOf_iff rfl, shapeFields, List.forall_mem_cons, List.forall_mem_singleton,
    says_typed_iff, says_additionalProperties_iff]
  constructor
  · rintro ⟨-, htexts⟩ f hf
    exact allows_text_iff.1 (htexts f hf rfl)
  · intro htexts
    exact ⟨rfl, fun f hf _ => allows_text_iff.2 (htexts f hf)⟩

/-- A reference to a definition that may be gone through allows what the definition does. -/
theorem allows_reference_iff {name : Text} {definition value : Value}
    (hdefinition : definitions.lookup name = some definition) :
    Allows definitions (namesOf definitions) (recordOf (shapeFields (.reference name))) value ↔
      Allows definitions ((namesOf definitions).erase name) definition value := by
  have hname : name ∈ namesOf definitions :=
    List.mem_map_of_mem (Value.mem_of_lookup hdefinition)
  rw [shapeFields, recordOf, Allows]
  change (∃ other, pointer name = pointer other ∧ _) ↔ _
  constructor
  · rintro ⟨other, htarget, -, s, hs, hallows⟩
    obtain rfl := List.append_cancel_left (Value.text.inj htarget)
    rw [hdefinition, Option.some.injEq] at hs
    exact hs ▸ hallows
  · intro hallows
    exact ⟨name, rfl, hname, definition, hdefinition, hallows⟩

/-! ## Words -/

theorem says_wordFields_iff {words : List Text} {word : Text} :
    (∀ k ∈ wordFields words, Says definitions ahead [] k (.text word)) ↔ word ∈ words := by
  rw [wordFields, List.forall_mem_cons, List.forall_mem_singleton, says_typed_iff, says_enum_iff]
  refine (and_iff_right rfl).trans ?_
  exact List.mem_map_of_injective fun _ _ => Value.text.inj

theorem allows_words_iff {words : List Text} {word : Text} :
    Allows definitions ahead (definitionValue (.words words)) (.text word) ↔ word ∈ words := by
  rw [definitionValue, allows_recordOf_iff rfl]
  exact says_wordFields_iff

theorem plain_words (words : List Text) : Plain (definitionValue (.words words)) :=
  ⟨rfl, rfl, rfl, fun h => absurd (Value.text.inj (Option.some.inj h)) (by decide)⟩

/-- Of the explained words, one is meant. -/
theorem allows_explained {words : List (Text × Text)} (hwords : (words.map Prod.fst).Nodup)
    {word : Text} (hword : word ∈ words.map Prod.fst) :
    Allows definitions ahead (definitionValue (.explained words)) (.text word) := by
  have hone : ∀ {about other : Text}, Allows definitions ahead
      (recordOf (("description", .text about) :: wordFields [other])) (.text word) ↔ word = other := by
    intro about other
    rw [allows_recordOf_iff rfl, List.forall_mem_cons, and_iff_right (says_remark rfl)]
    exact says_wordFields_iff.trans List.mem_singleton
  -- The schema at the index of the word allows it, and the words at other indices are others.
  obtain ⟨i, hi, hword⟩ := List.getElem_of_mem hword
  rw [List.length_map] at hi
  rw [List.getElem_map] at hword
  rw [definitionValue, allows_recordOf_iff rfl, List.forall_mem_singleton, says_oneOf_iff]
  refine ⟨⟨i, by rwa [List.length_map]⟩, ?_, ?_⟩
  · simp only [Fin.getElem_fin, List.getElem_map]
    exact hone.2 hword.symm
  · rintro ⟨j, hj⟩ hallows
    rw [List.length_map] at hj
    simp only [Fin.getElem_fin, List.getElem_map] at hallows
    have hij : (words.map Prod.fst).get ⟨j, by rwa [List.length_map]⟩
        = (words.map Prod.fst).get ⟨i, by rwa [List.length_map]⟩ := by
      rw [List.get_eq_getElem, List.get_eq_getElem, List.getElem_map, List.getElem_map, hword,
        hone.1 hallows]
    exact Fin.ext (Fin.mk.inj (List.nodup_iff_injective_get.1 hwords hij))

/-! ## Properties -/

/-- Keywords that say nothing about the values. -/
abbrev Remarks (keywords : List (String × Value)) : Prop :=
  ∀ k ∈ keywords, Keyword.ofName? k.1.toList = some .remark

theorem Remarks.cons {name : String} {operand : Value} {keywords : List (String × Value)}
    (hname : Keyword.ofName? name.toList = some .remark) (h : Remarks keywords) :
    Remarks ((name, operand) :: keywords) :=
  List.forall_mem_cons.2 ⟨hname, h⟩

theorem Remarks.nil : Remarks [] :=
  List.forall_mem_nil _

theorem lookup_remarks {remarks : List (String × Value)} (hremarks : Remarks remarks) {name : Text}
    (hname : Keyword.ofName? name ≠ some .remark) :
    (recordOf remarks).fields.lookup name = none := by
  rw [List.lookup_eq_none_iff]
  intro f hf
  obtain ⟨k, hk, rfl⟩ := List.mem_map.1 hf
  rw [bne_iff_ne]
  rintro rfl
  exact hname (hremarks k hk)

theorem lookup_between_remarks {before keywords after : List (String × Value)}
    (hbefore : Remarks before) (hafter : Remarks after) {name : Text}
    (hname : Keyword.ofName? name ≠ some .remark) :
    (recordOf (before ++ keywords ++ after)).fields.lookup name
      = (recordOf keywords).fields.lookup name := by
  have hnone := lookup_remarks hbefore hname
  have hnone' := lookup_remarks hafter hname
  simp only [recordOf, Value.fields, List.map_append, List.lookup_append] at hnone hnone' ⊢
  rw [hnone, hnone', Option.none_or, Option.or_none]

theorem allows_between_remarks_iff {before keywords after : List (String × Value)}
    (hbefore : Remarks before) (hafter : Remarks after)
    (h : (recordOf keywords).fields.lookup "$ref".toList = none) {value : Value} :
    Allows definitions ahead (recordOf (before ++ keywords ++ after)) value ↔
      Allows definitions ahead (recordOf keywords) value := by
  have hsame : propertiesAmong (recordOf (before ++ keywords ++ after)).fields
      = propertiesAmong (recordOf keywords).fields := by
    rw [propertiesAmong, propertiesAmong, lookup_between_remarks hbefore hafter (by decide)]
  have hkept : ∀ {remarks : List (String × Value)}, Remarks remarks → ∀ k ∈ remarks,
      Says definitions ahead (propertiesAmong (recordOf keywords).fields) k value :=
    fun hremarks k hk => says_remark (hremarks k hk)
  rw [allows_recordOf_iff ((lookup_between_remarks hbefore hafter (by decide)).trans h),
    allows_recordOf_iff h, hsame, List.forall_mem_append, List.forall_mem_append]
  exact (and_iff_left (hkept hafter)).trans (and_iff_right (hkept hbefore))

/-- What a schema for a property says about its values. -/
def valueFields : Shape → List (String × Value)
  | .reference name => [("allOf", .list [recordOf (shapeFields (.reference name))])]
  | shape => shapeFields shape

theorem exists_propertyValue_eq (p : Property) :
    ∃ remarks, Remarks remarks ∧
      propertyValue p = recordOf (remarks ++ valueFields p.shape ++ []) := by
  obtain ⟨name, about, shape, whenAbsent⟩ := p
  have hdefault : Remarks [("default", whenAbsent)] := .cons rfl .nil
  cases about with
  | none =>
    refine ⟨_, hdefault, ?_⟩
    cases shape <;> rfl
  | some about =>
    have habout : Remarks [("description", .text about), ("default", whenAbsent)] := .cons rfl hdefault
    refine ⟨_, habout, ?_⟩
    cases shape <;> rfl

theorem allows_propertyValue_iff {p : Property} {value : Value} :
    Allows definitions ahead (propertyValue p) value ↔
      Allows definitions ahead (recordOf (shapeFields p.shape)) value := by
  obtain ⟨remarks, hremarks, heq⟩ := exists_propertyValue_eq p
  have href : (recordOf (valueFields p.shape)).fields.lookup "$ref".toList = none := by
    cases p.shape <;> rfl
  rw [heq, allows_between_remarks_iff hremarks .nil href]
  cases p.shape with
  | reference name =>
    rw [valueFields, allows_recordOf_iff rfl, List.forall_mem_singleton, says_allOf_iff]
    exact List.forall_mem_singleton
  | _ => rfl

theorem lookup_propertyValue {p : Property} {name : Text}
    (hname : Keyword.ofName? name ≠ some .remark) :
    (propertyValue p).fields.lookup name = (recordOf (valueFields p.shape)).fields.lookup name := by
  obtain ⟨remarks, hremarks, heq⟩ := exists_propertyValue_eq p
  rw [heq, lookup_between_remarks hremarks .nil hname]

theorem ofRecords_propertyValue_iff {p : Property} :
    OfRecords (propertyValue p) ↔ p.shape = .labels := by
  rw [OfRecords, lookup_propertyValue (by decide)]
  have hother : ∀ {type : String}, type.toList ≠ "object".toList →
      some (Value.text type.toList) ≠ some (.text "object".toList) :=
    fun htype h => htype (Value.text.inj (Option.some.inj h))
  cases p.shape with
  | flag => exact iff_of_false (@hother "boolean" (by decide)) nofun
  | text => exact iff_of_false (@hother "string" (by decide)) nofun
  | list shape => exact iff_of_false (@hother "array" (by decide)) nofun
  | labels => exact iff_of_true rfl rfl
  | _ => exact iff_of_false nofun nofun

theorem lookup_propertyValue_eq_none (p : Property) :
    (propertyValue p).fields.lookup "$ref".toList = none ∧
      (propertyValue p).fields.lookup "properties".toList = none := by
  rw [lookup_propertyValue (by decide), lookup_propertyValue (by decide)]
  cases p.shape <;> exact ⟨rfl, rfl⟩

/-- Only a reference has schemas for parts, which is itself. -/
theorem exists_reference_of_parts {p : Property} {parts : List Value}
    (h : (propertyValue p).fields.lookup "allOf".toList = some (.list parts)) :
    ∃ name, p.shape = .reference name ∧ parts = [recordOf (shapeFields (.reference name))] := by
  rw [lookup_propertyValue (by decide)] at h
  cases hshape : p.shape with
  | reference name =>
    rw [hshape] at h
    cases h
    exact ⟨name, rfl, rfl⟩
  | _ => rw [hshape] at h; cases h

/-! ## Sections -/

theorem lookup_propertyValue_iff {properties : List Property} (h : (properties.map (·.name)).Nodup)
    {name : Text} {s : Value} :
    (properties.map fun p => (p.name, propertyValue p)).lookup name = some s ↔
      ∃ p ∈ properties, p.name = name ∧ propertyValue p = s := by
  induction properties with
  | nil => simp
  | cons p properties ih =>
    rw [List.map_cons, List.nodup_cons] at h
    rw [List.map_cons]
    by_cases hname : name = p.name
    · subst hname
      rw [List.lookup_cons_self, Option.some.injEq]
      constructor
      · intro hs
        exact ⟨p, List.mem_cons_self, rfl, hs⟩
      · rintro ⟨q, hq, hname, hs⟩
        rcases List.mem_cons.1 hq with rfl | hq
        · exact hs
        · exact absurd (hname ▸ List.mem_map_of_mem hq) h.1
    · rw [List.lookup_cons, beq_false_of_ne hname, ih h.2, List.exists_mem_cons_iff]
      exact (or_iff_right fun hp => hname hp.1.symm).symm

/-- A record is allowed if all that is in it is listed and has a value that is allowed there. -/
theorem allows_recordFields_iff {properties : List Property} (h : (properties.map (·.name)).Nodup)
    {fields : List (Text × Value)} :
    Allows definitions ahead (recordOf (recordFields properties)) (.record fields) ↔
      ∀ f ∈ fields, ∃ p ∈ properties, p.name = f.1 ∧
        Allows definitions (namesOf definitions) (recordOf (shapeFields p.shape)) f.2 := by
  have hflag : ∀ {v}, ¬ Allows definitions (namesOf definitions) (.flag false) v := by
    intro v
    rw [Allows]
    exact Bool.false_ne_true
  rw [allows_recordOf_iff rfl, recordFields, List.forall_mem_cons, List.forall_mem_cons,
    List.forall_mem_singleton, says_typed_iff, says_properties_iff, says_additionalProperties_iff]
  constructor
  · rintro ⟨-, hlisted, hother⟩ f hf
    cases hs : (properties.map fun p => (p.name, propertyValue p)).lookup f.1 with
    | none => exact absurd (hother f hf hs) hflag
    | some s =>
      obtain ⟨p, hp, hname, rfl⟩ := (lookup_propertyValue_iff h).1 hs
      exact ⟨p, hp, hname, allows_propertyValue_iff.1 (hlisted f hf _ hs)⟩
  · intro hall
    refine ⟨rfl, ?_, ?_⟩
    · intro f hf s hs
      obtain ⟨p, hp, hname, hallows⟩ := hall f hf
      have hp := (lookup_propertyValue_iff h).2 ⟨p, hp, hname, rfl⟩
      obtain rfl := Option.some.inj (hp.symm.trans hs)
      exact allows_propertyValue_iff.2 hallows
    · intro f hf hnone
      obtain ⟨p, hp, hname, -⟩ := hall f hf
      have hp := (lookup_propertyValue_iff h).2 ⟨p, hp, hname, rfl⟩
      cases hp.symm.trans hnone

theorem allows_toValue_iff {s : Schema} {value : Value} :
    Allows definitions ahead s.toValue value ↔
      Allows definitions ahead (recordOf (recordFields s.properties)) value :=
  allows_between_remarks_iff (.cons rfl (.cons rfl (.cons rfl .nil))) (.cons rfl .nil) rfl

/-- A record of all properties, one after another, each with a value that is allowed for it. -/
theorem allows_recordFields {properties : List Property} (h : (properties.map (·.name)).Nodup)
    {fields : List (String × Value)}
    (hfields : List.Forall₂ (fun p f => p.name = f.1.toList ∧
      Allows definitions (namesOf definitions) (recordOf (shapeFields p.shape)) f.2)
      properties fields) :
    Allows definitions ahead (recordOf (recordFields properties)) (recordOf fields) := by
  refine (allows_recordFields_iff h).2 (List.forall_mem_map.2 ?_)
  clear h
  induction hfields with
  | nil => exact List.forall_mem_nil _
  | cons hf _ ih =>
    rw [List.forall_mem_cons]
    refine ⟨⟨_, List.mem_cons_self, hf⟩, fun f hf => ?_⟩
    obtain ⟨p, hp, hallows⟩ := ih f hf
    exact ⟨p, List.mem_cons_of_mem _ hp, hallows⟩

/-- A section forbids the keys that are not listed, and it does not forbid a key in a record that it
allows. -/
theorem forbids_recordFields_iff {properties : List Property} (h : (properties.map (·.name)).Nodup)
    {fields : List (Text × Value)} (hnames : fields.map Prod.fst = properties.map (·.name))
    (hallows : Allows definitions ahead (recordOf (recordFields properties)) (.record fields))
    {key : Text} :
    Forbids definitions (recordOf (recordFields properties)) key ↔ key ∉ properties.map (·.name) := by
  constructor
  · intro hforbids hkey
    exact hforbids ahead fields (hnames ▸ hkey) hallows
  · intro hkey ahead fields hmem hallows
    obtain ⟨f, hf, rfl⟩ := List.mem_map.1 hmem
    obtain ⟨p, hp, hname, -⟩ := (allows_recordFields_iff h).1 hallows f hf
    exact hkey (hname ▸ List.mem_map_of_mem hp)

end ServerTelemetry.Schema
