import FixedExtract.Proofs.Definition.Accepted
import Mathlib.Data.List.Pairwise
/-!
# Drafts by their attributes

A draft is read attribute by attribute, each from a field with names of its own. The faults of reading it are the
faults of its attributes in order, each at a name of the field, so that a field is named by a fault exactly when
its own attribute cannot be read.
-/

namespace FixedExtract.Definition

/-! ## Faults of readings -/

namespace Checked

variable {α β : Type}

/-- The faults of a reading. -/
def found : Checked α → List TypeFault
  | .value _ => []
  | .faults found => found

/-- What was read, or else something given. -/
def getD (otherwise : α) : Checked α → α
  | .value a => a
  | .faults _ => otherwise

theorem found_map (f : α → β) (x : Checked α) : (f <$> x).found = x.found := by
  cases x <;> rfl

theorem found_seq (f : Checked (α → β)) (x : Checked α) : (f <*> x).found = f.found ++ x.found := by
  cases f with
  | value g => cases x <;> rfl
  | faults found =>
    cases x with
    | value a => exact (List.append_nil found).symm
    | faults more => rfl

theorem found_under (step : Step) (x : Checked α) :
    (x.under step).found = x.found.map (TypeFault.under step) := by
  cases x <;> rfl

theorem Explained.exists_value {x : Checked α} (h : x.Explained) (none : x.found = []) : ∃ a, x = .value a := by
  cases x with
  | value a => exact ⟨a, rfl⟩
  | faults found => exact absurd none h

end Checked

/-! ## Names of fields -/

namespace FieldName

/-- The key is one of the two names of the field. -/
def Bears (field : FieldName) (key : Text) : Prop := key = field.camel ∨ key = field.snake

instance (field : FieldName) (key : Text) : Decidable (field.Bears key) :=
  inferInstanceAs (Decidable (key = field.camel ∨ key = field.snake))

/-- The fields have no name in common. -/
structure Apart (a b : FieldName) : Prop where
  camel : ¬b.Bears a.camel
  snake : ¬b.Bears a.snake

instance (a b : FieldName) : Decidable (a.Apart b) :=
  decidable_of_iff (¬b.Bears a.camel ∧ ¬b.Bears a.snake) ⟨fun h => ⟨h.1, h.2⟩, fun h => ⟨h.1, h.2⟩⟩

theorem Apart.not_bears {a b : FieldName} (apart : a.Apart b) {key : Text} (h : a.Bears key) : ¬b.Bears key := by
  rcases h with rfl | rfl
  · exact apart.camel
  · exact apart.snake

theorem Apart.symm {a b : FieldName} (apart : a.Apart b) : b.Apart a :=
  ⟨fun h => apart.not_bears h (.inl rfl), fun h => apart.not_bears h (.inr rfl)⟩

/-- A field is found under one of its names. -/
theorem bears_of_find? {field : FieldName} {entries : Entries} {name : Text} {v : Value}
    (h : field.find? entries = some (name, v)) : field.Bears name := by
  unfold find? at h
  split at h
  · cases h
    exact .inl rfl
  · obtain ⟨_, -, made⟩ := Option.map_eq_some_iff.1 h
    cases made
    exact .inr rfl

/-- Entries that agree on the names of a field agree on the field. -/
theorem find?_congr {field : FieldName} {entries others : Entries}
    (agree : ∀ key, field.Bears key → entries.get? key = others.get? key) :
    field.find? entries = field.find? others := by
  rw [find?, find?, agree _ (.inl rfl), agree _ (.inr rfl)]

theorem find?_eq_none_of {field : FieldName} {entries : Entries}
    (gone : ∀ key, field.Bears key → entries.get? key = none) : field.find? entries = none := by
  rw [find?, gone _ (.inl rfl), gone _ (.inr rfl)]
  rfl

end FieldName

/-! ## Attributes -/

/-- A part of a draft: the field that it is read from, how, and what it is when the field is absent. -/
structure Attribute (δ : Type) where
  type : Type
  field : FieldName
  absent : type
  reader : Value → Checked type
  get : δ → type

namespace Attribute

variable {δ : Type}

/-- Reads the attribute by itself. -/
def read (a : Attribute δ) (entries : Entries) : Checked a.type := a.field.read entries a.absent a.reader

/-- The faults of the attribute by itself. -/
def faults (a : Attribute δ) (entries : Entries) : List TypeFault := (a.read entries).found

/-- A fault of an attribute is at the name under which its field was found. -/
theorem exists_find?_of_mem_faults {a : Attribute δ} {entries : Entries} {fault : TypeFault}
    (h : fault ∈ a.faults entries) :
    ∃ name v inner, a.field.find? entries = some (name, v) ∧ inner ∈ (a.reader v).found ∧
      fault = inner.under (.key name) := by
  unfold faults read FieldName.read at h
  split at h
  · rename_i name v found
    rw [Checked.found_under] at h
    obtain ⟨inner, member, made⟩ := List.mem_map.1 h
    exact ⟨name, v, inner, found, member, made.symm⟩
  · cases h

theorem read_of_absent {a : Attribute δ} {entries : Entries} (gone : a.field.find? entries = none) :
    a.read entries = .value a.absent := by
  rw [read, FieldName.read, gone]

/-- The fields of attributes have no names in common. -/
def Distinct (attributes : List (Attribute δ)) : Prop := attributes.Pairwise fun a b => a.field.Apart b.field

theorem Distinct.eq_of_bears {attributes : List (Attribute δ)} (distinct : Distinct attributes)
    {a b : Attribute δ} (ha : a ∈ attributes) (hb : b ∈ attributes) {key : Text} (aBears : a.field.Bears key)
    (bBears : b.field.Bears key) : a = b := by
  by_contra different
  have symmetric : Std.Symm fun a b : Attribute δ => a.field.Apart b.field := ⟨fun _ _ => FieldName.Apart.symm⟩
  exact (List.Pairwise.forall distinct ha hb different).not_bears aBears bBears

end Attribute

section
variable {δ : Type} {attributes : List (Attribute δ)} {entries : Entries}

/-- The names that faults of attributes are at are those under which their fields were found. -/
theorem mem_faultyNames {name : Text}
    (h : name ∈ faultyNames (attributes.flatMap fun a => a.faults entries)) :
    ∃ a ∈ attributes, a.field.Bears name ∧ a.faults entries ≠ [] := by
  obtain ⟨fault, member, named⟩ := List.mem_filterMap.1 h
  obtain ⟨a, ha, hf⟩ := List.mem_flatMap.1 member
  obtain ⟨other, v, inner, found, -, rfl⟩ := Attribute.exists_find?_of_mem_faults hf
  cases named
  exact ⟨a, ha, FieldName.bears_of_find? found, List.ne_nil_of_mem hf⟩

theorem exists_mem_faultyNames {a : Attribute δ} (ha : a ∈ attributes) (faulty : a.faults entries ≠ []) :
    ∃ name ∈ faultyNames (attributes.flatMap fun a => a.faults entries), a.field.Bears name := by
  obtain ⟨fault, hf⟩ := List.exists_mem_of_ne_nil _ faulty
  obtain ⟨name, v, inner, found, -, rfl⟩ := Attribute.exists_find?_of_mem_faults hf
  refine ⟨name, List.mem_filterMap.2 ⟨_, List.mem_flatMap.2 ⟨a, ha, hf⟩, rfl⟩, FieldName.bears_of_find? found⟩

/-- The fields that faults name are those of the attributes that cannot be read by themselves. -/
theorem mem_faultyFields_iff (distinct : Attribute.Distinct attributes) {a : Attribute δ} (ha : a ∈ attributes) :
    a.field ∈ faultyFields (attributes.map Attribute.field) (attributes.flatMap fun a => a.faults entries) ↔
      a.faults entries ≠ [] := by
  simp only [faultyFields, List.mem_filter, List.mem_map_of_mem ha, true_and, Bool.or_eq_true, List.elem_iff]
  constructor
  · intro named
    obtain ⟨name, member, bears⟩ : ∃ name ∈ faultyNames (attributes.flatMap fun a => a.faults entries),
        a.field.Bears name := by
      rcases named with snake | camel
      · exact ⟨_, snake, .inr rfl⟩
      · exact ⟨_, camel, .inl rfl⟩
    obtain ⟨b, hb, bears', faulty⟩ := mem_faultyNames member
    -- Only one attribute can have the name, so the fault is its own.
    rw [distinct.eq_of_bears ha hb bears bears']
    exact faulty
  · intro faulty
    obtain ⟨name, member, rfl | rfl⟩ := exists_mem_faultyNames ha faulty
    · exact .inr member
    · exact .inl member

/-! ## Reading by attributes -/

/-- Entries are read as drafts attribute by attribute. -/
structure ReadsBy (attributes : List (Attribute δ)) (read : Entries → Checked δ) : Prop where
  distinct : Attribute.Distinct attributes
  faults : ∀ entries, (read entries).found = attributes.flatMap fun a => a.faults entries
  value : ∀ entries draft, read entries = .value draft →
    ∀ a ∈ attributes, a.read entries = .value (a.get draft)
  explained : ∀ entries, (read entries).Explained
  ext : ∀ draft other, (∀ a ∈ attributes, a.get draft = a.get other) → draft = other

end

/-- Reads every item of what counts as a list; null counts as the empty one. -/
def readListOf {α : Type} (read : Value → Checked α) (v : Value) : Checked (List α) :=
  match readList (nullAsEmpty v) with
  | .value items => Checked.items read items
  | .faults found => .faults found

namespace MappingDraft

def attributes : List (Attribute MappingDraft) :=
  [⟨_, targetFieldNameField, none, orNull readText, targetFieldName⟩,
   ⟨_, targetPositionField, none, orNull readInteger, targetPosition⟩,
   ⟨_, lengthField, none, orNull readInteger, length⟩,
   ⟨_, dataTypeField, none, orNull readText, dataType⟩,
   ⟨_, transformationTypeField, none, orNull readText, transformationType⟩,
   ⟨_, sourceFieldField, none, orNull readText, sourceField⟩,
   ⟨_, valueField, none, orNull readWritten, value⟩,
   ⟨_, defaultValueField, none, orNull readWritten, defaultValue⟩,
   ⟨_, sourcesField, [], readListOf SourceDraft.read, sources⟩,
   ⟨_, delimiterField, none, orNull readWritten, delimiter⟩,
   ⟨_, transformField, none, orNull readText, transform⟩,
   ⟨_, conditionsField, [], readListOf ConditionDraft.read, conditions⟩,
   ⟨_, padField, none, orNull readText, pad⟩,
   ⟨_, padCharField, none, orNull readText, padChar⟩,
   ⟨_, transformationConfigField, (), readSettings, fun _ => ()⟩]

theorem readsBy_attributes : ReadsBy attributes readLifted where
  distinct := by
    have apart : (attributes.map Attribute.field).Pairwise FieldName.Apart := by decide +kernel
    exact List.pairwise_map.1 apart
  faults := by
    intro entries
    rw [readLifted]
    simp only [Checked.found_seq, Checked.found_map, List.append_assoc]
    simp only [attributes, List.flatMap_cons, List.flatMap_nil, List.append_nil]
    rfl
  value := by
    intro entries draft read
    rw [readLifted] at read
    simp only [Checked.seq_eq_value_iff, Checked.map_eq_value_iff] at read
    obtain ⟨_, _, ⟨_, _, ⟨_, _, ⟨_, _, ⟨_, _, ⟨_, _, ⟨_, _, ⟨_, _, ⟨_, _, ⟨_, _, ⟨_, _, ⟨_, _, ⟨_, _, ⟨_, _,
      ⟨_, name, rfl⟩, position, rfl⟩, length, rfl⟩, dataType, rfl⟩, kind, rfl⟩, source, rfl⟩, value, rfl⟩,
      byDefault, rfl⟩, sources, rfl⟩, delimiter, rfl⟩, transform, rfl⟩, conditions, rfl⟩, pad, rfl⟩,
      padChar, rfl⟩, settings, made⟩ := read
    cases made
    simp only [attributes, List.forall_mem_cons]
    exact ⟨name, position, length, dataType, kind, source, value, byDefault, sources, delimiter, transform,
      conditions, pad, padChar, settings, fun _ none => absurd none List.not_mem_nil⟩
  explained := explained_readLifted
  ext := by
    intro draft other same
    simp only [attributes, List.forall_mem_cons] at same
    cases draft
    cases other
    simp_all

end MappingDraft

namespace ConfigDraft

def attributes : List (Attribute ConfigDraft) :=
  [⟨_, sourceSystemField, none, orNull readText, sourceSystem⟩,
   ⟨_, jobNameField, none, orNull readText, jobName⟩,
   ⟨_, transactionTypeField, defaultTransactionType, readTransactionType, transactionType⟩,
   ⟨_, mappingsField, [], readMappings, mappings⟩,
   ⟨_, versionField, 1, readInteger, version⟩,
   ⟨_, lastModifiedField, none, orNull readTimestamp, lastModified⟩]

theorem readsBy_attributes : ReadsBy attributes fun entries => ConfigDraft.read (.map entries) where
  distinct := by
    have apart : (attributes.map Attribute.field).Pairwise FieldName.Apart := by decide +kernel
    exact List.pairwise_map.1 apart
  faults := by
    intro entries
    rw [ConfigDraft.read, Value.opened_map]
    simp only [Checked.found_seq, Checked.found_map, List.append_assoc]
    simp only [attributes, List.flatMap_cons, List.flatMap_nil, List.append_nil]
    rfl
  value := by
    intro entries draft read
    obtain ⟨sourceSystem, jobName, transactionType, mappings, version, lastModified⟩ := read_eq_value_iff.1 read
    simp only [attributes, List.forall_mem_cons]
    exact ⟨sourceSystem, jobName, transactionType, mappings, version, lastModified,
      fun _ none => absurd none List.not_mem_nil⟩
  explained := fun entries => explained_read (.map entries)
  ext := by
    intro draft other same
    simp only [attributes, List.forall_mem_cons] at same
    cases draft
    cases other
    simp_all

end ConfigDraft
end FixedExtract.Definition
