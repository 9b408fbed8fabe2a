import ServerTelemetry.Document.Decoder
import ServerTelemetry.Proofs.Duration.RoundTrip
import ServerTelemetry.Value.Basic

/-!
# Reading what was written

What a decoder reads out of a node, wherever the node stands (`Decoder.Reads`). Plain values are
read back from the nodes they are written as, lists and labels from those of their items, and a
section from its fields one after another (`Section.decodeEntries_of`).
-/

namespace ServerTelemetry

/-! ## Labels -/

namespace Labels

theorem entries_injective : Function.Injective entries := by
  rintro ⟨a, ha⟩ ⟨b, hb⟩ (rfl : a = b)
  rfl

/-- A label with a name after all others is put at the end. -/
theorem insertEntry_of_last {name text : Text} {entries : List (Text × Text)}
    (h : ∀ other ∈ entries.map Prod.fst, other < name) :
    insertEntry name text entries = entries ++ [(name, text)] := by
  induction entries with
  | nil => rfl
  | cons entry entries ih =>
    obtain ⟨other, old⟩ := entry
    rw [List.map_cons, List.forall_mem_cons] at h
    obtain ⟨hother, hrest⟩ := h
    have hne : name ≠ other := fun he => List.lt_irrefl name (he ▸ hother)
    rw [insertEntry, if_neg (List.lt_asymm hother), if_neg hne, ih hrest, List.cons_append]

/-- Labels that are written in their order come after those that were there. -/
theorem entries_insertAll (labels : Labels) {entries : List (Text × Text)}
    (h : ((labels.entries ++ entries).map Prod.fst).Pairwise (· < ·)) :
    (labels.insertAll entries).entries = labels.entries ++ entries := by
  -- Every label that is put in is the last one by then, so it is kept at the end.
  induction entries generalizing labels with
  | nil => rw [List.append_nil, insertAll, List.foldl_nil]
  | cons entry entries ih =>
    obtain ⟨name, text⟩ := entry
    have hlast : (labels.insert name text).entries = labels.entries ++ [(name, text)] := by
      apply insertEntry_of_last
      intro other hother
      rw [List.map_append, List.pairwise_append] at h
      exact h.2.2 other hother name List.mem_cons_self
    have hrest := ih (labels.insert name text)
    rw [hlast, List.append_assoc] at hrest
    exact hrest h

theorem insertAll_entries (labels : Labels) : empty.insertAll labels.entries = labels := by
  have h : (empty.insertAll labels.entries).entries = labels.entries :=
    entries_insertAll empty labels.sorted
  exact entries_injective h

end Labels

theorem Value.mem_toEntries {fields : List (Text × Value)} {name : Text} {value : Value}
    (h : (name, value) ∈ fields) :
    (.scalar name false none, value.toNode) ∈ toEntries fields := by
  induction fields with
  | nil => cases h
  | cons f fields ih =>
    obtain ⟨other, v⟩ := f
    rw [toEntries]
    rcases List.mem_cons.1 h with heq | h
    · cases heq
      exact List.mem_cons_self
    · exact List.mem_cons_of_mem _ (ih h)

namespace Document

open Yaml

/-- The decoder reads a value out of a node, wherever it stands. -/
def Decoder.Reads {α : Type} (decoder : Decoder α) (node : Node) (x : α) : Prop :=
  ∀ named place, decoder named place node = .ok x

namespace Decoder

theorem reads_flag (value : Bool) : flag.Reads (Value.flag value).toNode value := by
  intro named place
  cases value <;> rfl

theorem reads_text (s : Text) : text.Reads (Value.text s).toNode s := by
  intro named place
  rfl

theorem reads_text? (s : Option Text) : text?.Reads (Value.text? s).toNode s := by
  intro named place
  cases s <;> rfl

theorem reads_duration (d : Duration) : duration.Reads (Value.text d.write).toNode d := by
  intro named place
  simp only [duration, Value.toNode, Node.target, Duration.read_write]

theorem reads_word {α : Type} {kind name : Text} {words : List (Text × α)} {x : α}
    (h : words.lookup name = some x) : (word kind words).Reads (Value.text name).toNode x := by
  intro named place
  simp only [word, Value.toNode, Node.target, h]
  rfl

theorem reads_list {α : Type} {item : Decoder α} {write : α → Value} {xs : List α}
    (h : ∀ x ∈ xs, item.Reads (write x).toNode x) :
    (list item).Reads (Value.list (xs.map write)).toNode xs := by
  intro named place
  have hitems : ∀ index, items item named place index (Value.toNodes (xs.map write)) = .ok xs := by
    induction xs with
    | nil => exact fun _ => rfl
    | cons x xs ih =>
      obtain ⟨hx, hxs⟩ := List.forall_mem_cons.1 h
      intro index
      rw [List.map_cons, Value.toNodes, items, hx, ih hxs]
      rfl
  exact hitems 0

/-- Entries with texts are read back one by one. -/
theorem mapM_textEntries (named : Named) (place : Place) (entries : List (Text × Text)) :
    (Value.toEntries (entries.map fun (name, text) => (name, .text text))).mapM
      (fun (name, value) => do
        let (name, step) ← key "a string".toList named place name
        return (name, ← text named (step :: place) value)) = .ok entries := by
  induction entries with
  | nil => rfl
  | cons entry entries ih =>
    obtain ⟨name, s⟩ := entry
    rw [List.map_cons, Value.toEntries, List.mapM_cons, ih]
    rfl

theorem reads_labels (l : Labels) :
    labels.Reads
      (Value.record (l.entries.map fun (name, text) => (name, .text text))).toNode l := by
  intro named place
  simp only [labels, Value.toNode, Node.target, mapM_textEntries]
  exact congrArg Except.ok l.insertAll_entries

end Decoder

namespace Section

variable {σ : Type} {s : Section σ} {named : Named} {place : Place}

/-- The first entry is put in, and then the others. -/
theorem decodeEntries_cons {name : Text} {field : Field σ} (hfield : s.field? name = some field)
    {seen : List Text} (hseen : name ∉ seen) {plain : Bool} {tag : Option Tag} {node : Node}
    {x y : σ} (hdecode : field.decode named (.key name :: place) node x = .ok y)
    (entries : List (Node × Node)) :
    s.decodeEntries named place seen ((.scalar name plain tag, node) :: entries) x
      = s.decodeEntries named place (name :: seen) entries y := by
  have hnew : seen.contains name = false := by simpa using hseen
  rw [decodeEntries]
  simp only [Decoder.key, bind, Except.bind, hfield, hnew, Bool.false_eq_true, ↓reduceIte, hdecode]

/-- A field with a decoder that reads its value is put in. -/
theorem decodeEntries_of {α : Type} {name : String} {decoder : Decoder α} {put : α → σ → σ}
    (hfield : s.field? name.toList = some (.of name decoder put)) {seen : List Text}
    (hseen : name.toList ∉ seen) {plain : Bool} {tag : Option Tag} {node : Node} {x : α}
    (hx : decoder.Reads node x) (entries : List (Node × Node)) (y : σ) :
    s.decodeEntries named place seen ((.scalar name.toList plain tag, node) :: entries) y
      = s.decodeEntries named place (name.toList :: seen) entries (put x y) := by
  refine decodeEntries_cons hfield hseen ?_ entries
  simp only [Field.of, hx named]
  rfl

end Section

end Document

end ServerTelemetry
