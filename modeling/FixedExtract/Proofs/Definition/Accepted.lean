import FixedExtract.Proofs.Definition.Handover
import FixedExtract.Proofs.Definition.Loading
/-!
# Accepted definitions are loaded

A reading that fails names at least one fault. The check reports the faults of all it reads, so a definition
that it accepts, as a map or as a draft, can be read as a whole and converted.
-/

namespace FixedExtract.Definition

/-! ## Readings that fail name a fault -/

/-- The value was read, or there is a fault to name. -/
def Checked.Explained {α : Type} : Checked α → Prop
  | .value _ => True
  | .faults found => found ≠ []

namespace Checked

variable {α β : Type} {x : Checked α} {f : Checked (α → β)}

@[simp] theorem explained_value (a : α) : (value a).Explained := trivial

@[simp] theorem explained_fail (problem : Problem) : (fail problem : Checked α).Explained :=
  List.cons_ne_nil _ _

theorem Explained.map (h : x.Explained) (g : α → β) : (g <$> x).Explained := by
  cases x with
  | value a => trivial
  | faults found => exact h

theorem Explained.seq (hf : f.Explained) (hx : x.Explained) : (f <*> x).Explained := by
  cases f with
  | value g =>
    cases x with
    | value a => trivial
    | faults more => exact hx
  | faults found =>
    cases x with
    | value a => exact hf
    | faults more => exact List.append_ne_nil_of_left_ne_nil hf more

theorem Explained.under (h : x.Explained) (step : Step) : (x.under step).Explained := by
  cases x with
  | value a => trivial
  | faults found => simpa [Checked.under, Explained] using h

theorem explained_items {read : β → Checked α} (h : ∀ b, (read b).Explained) (list : List β) :
    (items read list).Explained := by
  have from_ : ∀ index, (itemsFrom read index list).Explained := by
    induction list with
    | nil => exact fun _ => trivial
    | cons b rest ih => exact fun index => (((h b).under _).map _).seq (ih _)
  exact from_ 0

end Checked

open Checked

variable {α : Type}

theorem explained_readText (v : Value) : (readText v).Explained := by
  cases v with
  | bytes bs =>
    rw [readText]
    split <;> simp
  | _ => simp [readText]

theorem explained_readWritten (v : Value) : (readWritten v).Explained := by
  unfold readWritten
  split
  · exact explained_fail _
  · trivial
  · split
    · trivial
    · exact explained_fail _

theorem explained_orNull {read : Value → Checked α} (h : ∀ v, (read v).Explained) (v : Value) :
    (orNull read v).Explained := by
  cases v with
  | null => trivial
  | _ => exact (h _).map some

theorem explained_readIntegerText (text : Text) : (readIntegerText text).Explained := by
  have plain : ∀ (text : Text) (otherwise : Checked Int), otherwise.Explained →
      (readPlainInteger text otherwise).Explained := by
    intro text otherwise h
    unfold readPlainInteger
    split
    · exact explained_fail _
    · split
      · trivial
      · exact h
  refine plain _ _ ?_
  split
  · exact plain _ _ (explained_fail _)
  · exact explained_fail _

theorem explained_readInteger (v : Value) : (readInteger v).Explained := by
  cases v with
  | text t => exact explained_readIntegerText t
  | bytes bs =>
    rw [readInteger]
    split
    · exact explained_readIntegerText _
    · exact explained_fail _
  | float x =>
    rw [readInteger]
    split
    · exact explained_fail _
    · split
      · exact explained_fail _
      · split <;> simp
  | _ => simp [readInteger]

theorem explained_readList (v : Value) : (readList v).Explained := by
  unfold readList
  split <;> simp

/-- Of what counts as a list, every item is read. -/
theorem explained_listOf {read : Value → Checked α} (h : ∀ v, (read v).Explained) (v : Value) :
    (match readList v with
      | .value list => Checked.items read list
      | .faults found => .faults found : Checked (List α)).Explained := by
  have list := explained_readList v
  cases listed : readList v with
  | value items => exact explained_items h items
  | faults found =>
    rw [listed] at list
    exact list

theorem FieldName.explained_read {field : FieldName} {entries : Entries} {otherwise : α}
    {reader : Value → Checked α} (h : ∀ v, (reader v).Explained) :
    (field.read entries otherwise reader).Explained := by
  unfold FieldName.read
  split
  · exact (h _).under _
  · trivial

open FieldName (explained_read)

theorem explained_text : ∀ v, (orNull readText v).Explained := explained_orNull explained_readText

theorem explained_written : ∀ v, (orNull readWritten v).Explained := explained_orNull explained_readWritten

theorem ConditionDraft.explained_readWithin (fuel : Nat) (around : List Nat) (v : Value) :
    (ConditionDraft.readWithin fuel around v).Explained := by
  induction fuel generalizing around v with
  | zero => exact explained_fail _
  | succ fuel ih =>
    unfold ConditionDraft.readWithin
    split
    · exact explained_fail _
    · split
      · exact ((((explained_read explained_text).map _).seq (explained_read explained_written)).seq
          (explained_read (explained_listOf (ih _)))).seq (explained_read explained_written)
      · exact explained_fail _

theorem SourceDraft.explained_read (v : Value) : (SourceDraft.read v).Explained := by
  unfold SourceDraft.read
  split
  · trivial
  · trivial
  · next asText asObject =>
    have text := explained_readText v
    rw [asText] at text
    exact List.append_ne_nil_of_left_ne_nil (fun none => text (List.map_eq_nil_iff.1 none)) _

theorem MappingDraft.explained_readSettings (v : Value) : (MappingDraft.readSettings v).Explained := by
  unfold MappingDraft.readSettings
  split
  · exact (explained_items (fun _ => explained_readText _) _).map _
  · exact explained_fail _

theorem MappingDraft.explained_readLifted (entries : Entries) : (MappingDraft.readLifted entries).Explained := by
  have text : ∀ field : FieldName, (field.read entries none (orNull readText)).Explained :=
    fun _ => explained_read explained_text
  have integer : ∀ field : FieldName, (field.read entries none (orNull readInteger)).Explained :=
    fun _ => explained_read (explained_orNull explained_readInteger)
  have written : ∀ field : FieldName, (field.read entries none (orNull readWritten)).Explained :=
    fun _ => explained_read explained_written
  unfold MappingDraft.readLifted
  refine .seq (.seq (.seq (.seq (.seq (.seq (.seq (.seq (.seq (.seq (.seq (.seq (.seq (.seq (.map ?_ _)
    ?_) ?_) ?_) ?_) ?_) ?_) ?_) ?_) ?_) ?_) ?_) ?_) ?_) ?_
  case refine_9 => exact explained_read fun _ => explained_listOf SourceDraft.explained_read _
  case refine_12 => exact explained_read fun _ => explained_listOf (ConditionDraft.explained_readWithin _ _) _
  case refine_15 => exact explained_read MappingDraft.explained_readSettings
  all_goals first | exact text _ | exact integer _ | exact written _

theorem MappingDraft.explained_read (v : Value) : (MappingDraft.read v).Explained := by
  unfold MappingDraft.read
  split
  · exact explained_readLifted _
  · exact explained_fail _

theorem ConfigDraft.explained_readTransactionType (v : Value) :
    (ConfigDraft.readTransactionType v).Explained := by
  unfold ConfigDraft.readTransactionType
  split
  · trivial
  · trivial
  · exact explained_readText v

theorem ConfigDraft.explained_readTimestamp (v : Value) : (ConfigDraft.readTimestamp v).Explained := by
  unfold ConfigDraft.readTimestamp
  split
  · trivial
  · exact explained_readWritten v

theorem ConfigDraft.explained_read (v : Value) : (ConfigDraft.read v).Explained := by
  unfold ConfigDraft.read
  split
  · refine .seq (.seq (.seq (.seq (.seq (.map ?_ _) ?_) ?_) ?_) ?_) ?_
    · exact FieldName.explained_read explained_text
    · exact FieldName.explained_read explained_text
    · exact FieldName.explained_read explained_readTransactionType
    · exact FieldName.explained_read fun _ => explained_listOf MappingDraft.explained_read _
    · exact FieldName.explained_read explained_readInteger
    · exact FieldName.explained_read (explained_orNull explained_readTimestamp)
  · exact explained_fail _

/-! ## What the check has read -/

/-- What is read in parts without a fault is read as a whole. -/
theorem exists_value_of_readPartially {fields : List FieldName} {blank : α} {read : Value → Checked α} {v : Value}
    (explained : (read v).Explained) (clean : (readPartially fields blank read v).faults = []) :
    ∃ draft, read v = .value draft := by
  cases h : read v with
  | value draft => exact ⟨draft, rfl⟩
  | faults found =>
    have same : (readPartially fields blank read v).faults = found := by
      simp only [readPartially, h]
      split
      · split <;> rfl
      · rfl
    rw [h] at explained
    exact absurd (same.symm.trans clean) explained

section
variable {entries : Entries} {maximum : Int}

/-- Of an accepted map the mappings are a list of maps that are read, and the rest is read without them. -/
theorem read_of_accepted (accepted : (checkShape maximum (.entries entries)).valid = true) :
    ∃ rest items mappings, ConfigDraft.read (.map (ConfigDraft.withoutMappings entries)) = .value rest ∧
      (givenMappings entries).opened = .list items ∧ ReadAs items mappings := by
  have noErrors : (checkShape maximum (.entries entries)).errors = [] := List.isEmpty_iff.1 accepted
  have noFaults : (readSubmission (.entries entries)).faults = [] := by
    rw [List.eq_nil_iff_forall_not_mem]
    intro fault member
    rw [← wrongType_mem_checkShape_iff, noErrors] at member
    cases member
  have some : (readSubmission (.entries entries)).draft.mappings ≠ [] := by
    rw [ne_eq, ← noMappings_mem_checkShape_iff, noErrors]
    exact List.not_mem_nil
  -- The faults are those of the rest, of the list and of each mapping, and there are none.
  simp only [readSubmission, List.append_eq_nil_iff, List.map_eq_nil_iff, ne_eq] at noFaults some
  obtain ⟨⟨top, list⟩, each⟩ := noFaults
  obtain ⟨rest, readRest⟩ := exists_value_of_readPartially (ConfigDraft.explained_read _) top
  obtain ⟨items, opened⟩ : ∃ items, (givenMappings entries).opened = .list items := by
    rcases mappingList_faults_eq_nil_iff.1 list with null | listed
    · exact absurd (congrArg Prod.fst (mappingList_eq_nil_iff.2 (.inl null))) some
    · exact listed
  have itemsEq : mappingList (givenMappings entries) = (items, []) := mappingList_of_list opened
  have readEach : ∀ item ∈ items, ∃ m, MappingDraft.read item = .value m := by
    simp only [itemsEq, List.flatMap_eq_nil_iff, List.map_eq_nil_iff] at each
    have clean := (forall_mem_zipIdx (P := fun reading : Partial MappingDraft => reading.faults = [])).1 each
    intro item member
    exact exists_value_of_readPartially (MappingDraft.explained_read item) (clean _ (List.mem_map_of_mem member))
  obtain ⟨mappings, beside⟩ := exists_forall₂ readEach
  exact ⟨rest, items, mappings, readRest, opened, beside⟩

theorem readMappings_of_list {v : Value} {items : List Value} {mappings : List MappingDraft}
    (list : v.opened = .list items) (beside : ReadAs items mappings) :
    ConfigDraft.readMappings v = .value mappings := by
  have notNull : v ≠ .null := by
    rintro rfl
    cases list
  rw [ConfigDraft.readMappings, nullAsEmpty_of_ne notNull, readList, list]
  exact (Checked.itemsFrom_eq_value_iff 0).2 beside

/-- A list of mappings is what is read of a definition, unless null covers it. -/
theorem readField_of_given {items : List Value} {mappings : List MappingDraft}
    (list : (givenMappings entries).opened = .list items) (beside : ReadAs items mappings)
    (uncovered : entries.get? ConfigDraft.mappingsField.camel ≠ some .null) :
    ConfigDraft.mappingsField.read entries [] ConfigDraft.readMappings = .value mappings := by
  have given := readMappings_of_list list beside
  unfold givenMappings Entries.getD at list given
  unfold FieldName.read FieldName.find?
  cases camel : entries.get? ConfigDraft.mappingsField.camel with
  | none =>
    simp only [camel] at list given ⊢
    cases snake : entries.get? ConfigDraft.mappingsField.snake with
    | none =>
      rw [snake] at list
      cases list
    | some v =>
      rw [snake] at given
      exact Checked.under_eq_value_iff.2 given
  | some v =>
    simp only [camel] at given ⊢
    refine Checked.under_eq_value_iff.2 ?_
    cases v with
    | null => exact absurd camel uncovered
    | _ => exact given

/-- Null under the first of the two spellings is what is read, whatever the other one has. -/
theorem readField_of_covered (covered : entries.get? ConfigDraft.mappingsField.camel = some .null) :
    ConfigDraft.mappingsField.read entries [] ConfigDraft.readMappings = .value [] := by
  rw [FieldName.read, FieldName.find?, covered]
  rfl

/-- A definition is read as a whole from its mappings and the rest. -/
theorem read_of_withoutMappings {rest : ConfigDraft} {mappings : List MappingDraft}
    (readRest : ConfigDraft.read (.map (ConfigDraft.withoutMappings entries)) = .value rest)
    (read : ConfigDraft.mappingsField.read entries [] ConfigDraft.readMappings = .value mappings) :
    ConfigDraft.read (.map entries) = .value { rest with mappings := mappings } := by
  obtain ⟨sourceSystem, jobName, transactionType, -, version, lastModified⟩ :=
    ConfigDraft.read_eq_value_iff.1 readRest
  rw [ConfigDraft.readField_withoutMappings entries (by decide)] at sourceSystem jobName transactionType
  rw [ConfigDraft.readField_withoutMappings entries (by decide)] at version lastModified
  exact ConfigDraft.read_eq_value_iff.2 ⟨sourceSystem, jobName, transactionType, read, version, lastModified⟩

/-- An accepted map is loaded as the draft that its mappings and the rest make. -/
theorem load_of_parts {rest : ConfigDraft} {mappings : List MappingDraft}
    (accepted : (checkShape maximum (.entries entries)).valid = true)
    (readRest : ConfigDraft.read (.map (ConfigDraft.withoutMappings entries)) = .value rest)
    (read : ConfigDraft.mappingsField.read entries [] ConfigDraft.readMappings = .value mappings) :
    load maximum (.entries entries) = convert (.draft { rest with mappings := mappings }) := by
  rw [load, if_pos accepted, convert, convert, toDraft_of_read (read_of_withoutMappings readRest read),
    Submission.toDraft]

end

/-- What the check has seen of an accepted definition is a draft, and the draft is well-formed. The definition is
loaded as the layout that is made of the draft, unless null covers its mappings, and then as one without fields. -/
theorem exists_seen_of_accepted {maximum : Int} {submission : Submission}
    (accepted : (checkShape maximum submission).valid = true) :
    ∃ draft config, readSubmission submission = readSubmission (.draft draft) ∧ draft.WellFormed maximum ∧
      load maximum submission = .ok config ∧ (draft.toConfig = .ok config ∨ config.mappings = []) := by
  cases submission with
  | draft draft =>
    obtain ⟨config, converted, loaded, -⟩ := load_ok (wellFormed_of_valid accepted)
    exact ⟨draft, config, rfl, wellFormed_of_valid accepted, loaded, .inl converted⟩
  | entries entries =>
    obtain ⟨rest, items, mappings, readRest, list, beside⟩ := read_of_accepted accepted
    let draft : ConfigDraft := { rest with mappings := mappings }
    have seen : readSubmission (.entries entries) = readSubmission (.draft draft) :=
      readSubmission_of_parts readRest (mappingList_of_list list) beside
    have wellFormed : draft.WellFormed maximum := by
      apply wellFormed_of_valid
      rwa [checkShape, ← seen]
    by_cases covered : entries.get? ConfigDraft.mappingsField.camel = some .null
    · have loaded := load_of_parts accepted readRest (readField_of_covered covered)
      exact ⟨draft, _, seen, wellFormed, loaded, .inr rfl⟩
    · have loaded := load_of_parts accepted readRest (readField_of_given list beside covered)
      obtain ⟨config, converted, -⟩ := wellFormed.toConfig
      exact ⟨draft, config, seen, wellFormed, loaded.trans (convert_eq_ok_iff.2 converted), .inl converted⟩

/-- A definition that the check accepts is loaded, however it was handed in. -/
theorem exists_load_of_accepted {maximum : Int} {submission : Submission}
    (accepted : (checkShape maximum submission).valid = true) :
    ∃ config, load maximum submission = .ok config := by
  obtain ⟨_, config, -, -, loaded, -⟩ := exists_seen_of_accepted accepted
  exact ⟨config, loaded⟩

end FixedExtract.Definition
