import FixedExtract.Definition.Draft
import FixedExtract.Proofs.Yaml.Document
import Mathlib.Data.List.Forall2
/-!
# Reading written fields

What reading makes of the entries of a document: a field that is written under its name in camel case is
read from there, and one that is written under neither of its names has its usual value.
-/

namespace FixedExtract.Definition

open Yaml (Document)

/-! ## Readings without faults -/

theorem Checked.map_eq_value {α β : Type} {x : Checked α} {a : α} (f : α → β) (h : x = .value a) :
    f <$> x = .value (f a) := by
  rw [h]
  rfl

theorem Checked.seq_eq_value {α β : Type} {f : Checked (α → β)} {x : Checked α} {g : α → β} {a : α}
    (hf : f = .value g) (hx : x = .value a) : f <*> x = .value (g a) := by
  rw [hf, hx]
  rfl

theorem Checked.map_eq_value_iff {α β : Type} {f : α → β} {x : Checked α} {b : β} :
    f <$> x = .value b ↔ ∃ a, x = .value a ∧ f a = b := by
  cases x with
  | value a =>
    constructor
    · intro h
      cases h
      exact ⟨a, rfl, rfl⟩
    · rintro ⟨a', ha, rfl⟩
      cases ha
      rfl
  | faults found =>
    constructor
    · intro h
      cases h
    · rintro ⟨a, ha, -⟩
      cases ha

theorem Checked.seq_eq_value_iff {α β : Type} {f : Checked (α → β)} {x : Checked α} {b : β} :
    f <*> x = .value b ↔ ∃ g a, f = .value g ∧ x = .value a ∧ g a = b := by
  constructor
  · intro h
    cases f with
    | value g =>
      cases x with
      | value a =>
        cases h
        exact ⟨g, a, rfl, rfl, rfl⟩
      | faults found => cases h
    | faults found => cases x <;> cases h
  · rintro ⟨g, a, rfl, rfl, rfl⟩
    rfl

theorem Checked.under_eq_value_iff {α : Type} {step : Step} {x : Checked α} {a : α} :
    x.under step = .value a ↔ x = .value a := by
  cases x with
  | value b => rfl
  | faults found => simp [Checked.under]

/-- When every item is read, all of them are read in order. -/
theorem Checked.itemsFrom_eq_value {α β γ : Type} {read : β → Checked γ} {item : α → β}
    {result : α → γ} {list : List α} (h : ∀ a ∈ list, read (item a) = .value (result a))
    (index : Nat) : itemsFrom read index (list.map item) = .value (list.map result) := by
  induction list generalizing index with
  | nil => rfl
  | cons a rest ih =>
    rw [List.map_cons, itemsFrom, h a List.mem_cons_self,
      ih (fun b hb => h b (List.mem_cons_of_mem a hb))]
    rfl

/-- A list is read exactly as the list of what its items are read as. -/
theorem Checked.itemsFrom_eq_value_iff {β γ : Type} {read : β → Checked γ} {list : List β}
    {results : List γ} (index : Nat) :
    itemsFrom read index list = .value results ↔
      List.Forall₂ (fun item result => read item = .value result) list results := by
  induction list generalizing index results with
  | nil =>
    rw [itemsFrom, List.forall₂_nil_left_iff]
    exact ⟨fun h => (Checked.value.inj h).symm, fun h => congrArg Checked.value h.symm⟩
  | cons item rest ih =>
    have one : itemsFrom read index (item :: rest) =
        List.cons <$> (read item).under (.index index) <*> itemsFrom read (index + 1) rest := rfl
    rw [one, Checked.seq_eq_value_iff, List.forall₂_cons_left_iff]
    simp only [Checked.map_eq_value_iff, Checked.under_eq_value_iff, ih]
    constructor
    · rintro ⟨_, others, ⟨result, first, rfl⟩, following, rfl⟩
      exact ⟨result, others, first, following, rfl⟩
    · rintro ⟨result, others, first, following, rfl⟩
      exact ⟨_, others, ⟨result, first, rfl⟩, following, rfl⟩

theorem Checked.items_eq_value {α β γ : Type} {read : β → Checked γ} {item : α → β}
    {result : α → γ} {list : List α} (h : ∀ a ∈ list, read (item a) = .value (result a)) :
    items read (list.map item) = .value (list.map result) :=
  itemsFrom_eq_value h 0

/-! ## Fields -/

namespace FieldName

variable {α : Type} {camel snake : String} {fields : List (Text × Document)} {otherwise : α}
  {reader : Value → Checked α}

theorem find?_eq_none (noCamel : fields.lookup camel.toList = none)
    (noSnake : fields.lookup snake.toList = none) :
    find? ⟨camel.toList, snake.toList⟩ (Document.entryValues fields) = none := by
  rw [find?, Document.get?_entryValues, noCamel, Option.map_none]
  simp only
  rw [Document.get?_entryValues, noSnake]
  rfl

theorem find?_of_camel {document : Document}
    (written : fields.lookup camel.toList = some document) :
    find? ⟨camel.toList, snake.toList⟩ (Document.entryValues fields) =
      some (camel.toList, document.toValue) := by
  rw [find?, Document.get?_entryValues, written, Option.map_some]

/-- A field that is written in camel case is read from there. -/
theorem read_of_camel {document : Document} {a : α}
    (written : fields.lookup camel.toList = some document)
    (readable : reader document.toValue = .value a) :
    read ⟨camel.toList, snake.toList⟩ (Document.entryValues fields) otherwise reader = .value a := by
  rw [read, find?_of_camel written]
  simp only [readable, Checked.under]

/-- A field that is not written has its usual value. -/
theorem read_of_missing (noCamel : fields.lookup camel.toList = none)
    (noSnake : fields.lookup snake.toList = none) :
    read ⟨camel.toList, snake.toList⟩ (Document.entryValues fields) otherwise reader =
      .value otherwise := by
  rw [read, find?_eq_none noCamel noSnake]

/-- A text that is written or left out is read as a text that is there or missing. -/
theorem read_optional {text : Option Text} {reader : Value → Checked (Option Text)}
    (written : fields.lookup camel.toList = text.map Document.text)
    (noSnake : fields.lookup snake.toList = none)
    (readable : ∀ t, reader (.text t) = .value (some t)) :
    read ⟨camel.toList, snake.toList⟩ (Document.entryValues fields) none reader = .value text := by
  cases text with
  | none => exact read_of_missing written noSnake
  | some t => exact read_of_camel written (readable t)

/-- The same for a field whose two names are one. -/
theorem read_optional_alike {text : Option Text} {reader : Value → Checked (Option Text)}
    (written : fields.lookup camel.toList = text.map Document.text)
    (readable : ∀ t, reader (.text t) = .value (some t)) :
    read ⟨camel.toList, camel.toList⟩ (Document.entryValues fields) none reader = .value text := by
  cases text with
  | none => exact read_of_missing written written
  | some t => exact read_of_camel written (readable t)

end FieldName

theorem orNull_readText_text (text : Text) : orNull readText (.text text) = .value (some text) := rfl

theorem orNull_readWritten_text (text : Text) : orNull readWritten (.text text) = .value (some text) := rfl

/-! ## Transaction types -/

/-- The draft was read of entries, in which the transaction type is no byte string. -/
def ConfigDraft.Parsed (draft : ConfigDraft) : Prop :=
  ∃ entries : Entries, ConfigDraft.read (.map entries) = .value draft ∧
    ∀ name bytes, ConfigDraft.transactionTypeField.find? entries ≠ some (name, .bytes bytes)

theorem readTransactionType_notBlank {v : Value} {type : Text} (notBytes : ∀ bytes, v ≠ .bytes bytes)
    (h : ConfigDraft.readTransactionType v = .value type) : Text.isBlank type = false := by
  cases v with
  | null =>
    cases h
    decide
  | text t =>
    rw [ConfigDraft.readTransactionType] at h
    cases h
    by_cases blank : Text.isBlank t = true
    · rw [if_pos blank]
      decide
    · rw [if_neg blank]
      simpa using blank
  | bytes bytes => exact absurd rfl (notBytes bytes)
  | bool _ | int _ | float _ | date _ | moment _ | list _ | tuple _ | set _ | map _ | ring _ _
  | again _ => cases h

/-- Whatever is given for a transaction type but a byte string, the type is not blank. -/
theorem ConfigDraft.Parsed.isBlank_transactionType {draft : ConfigDraft} (h : draft.Parsed) :
    Text.isBlank draft.transactionType = false := by
  obtain ⟨entries, read, notBytes⟩ := h
  rw [ConfigDraft.read, Value.opened_map] at read
  simp only [Checked.seq_eq_value_iff, Checked.map_eq_value_iff] at read
  -- Of the six fields that were read, the third is the transaction type.
  obtain ⟨_, _, ⟨_, _, ⟨_, _, ⟨_, type, ⟨_, _, ⟨_, _, rfl⟩, _, rfl⟩, typeRead, rfl⟩, _, rfl⟩, _, rfl⟩,
    _, rfl⟩ := read
  show Text.isBlank type = false
  rw [FieldName.read] at typeRead
  cases found : ConfigDraft.transactionTypeField.find? entries with
  | none =>
    rw [found] at typeRead
    cases typeRead
    decide
  | some entry =>
    obtain ⟨name, v⟩ := entry
    rw [found] at typeRead
    refine readTransactionType_notBlank ?_ (Checked.under_eq_value_iff.1 typeRead)
    rintro bytes rfl
    exact notBytes name bytes found

end FixedExtract.Definition
