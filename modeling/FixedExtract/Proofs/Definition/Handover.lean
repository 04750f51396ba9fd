import FixedExtract.Compiled.Compile
import FixedExtract.Proofs.Definition.Reading
import FixedExtract.Proofs.Definition.WellFormed
import FixedExtract.Proofs.Traversal
/-!
# Definitions handed in as maps

A definition that is handed in as a map is checked in parts, the mappings one by one and the rest by itself,
while a layout is made of what reading the map as a whole gives. The two see the same definition as long as
the mappings stand in a list and null does not cover them: where the camel-case name has null, the check
looks under the snake-case name too, and reading does not.
-/

namespace FixedExtract

/-! ## Entries left out -/

theorem Value.isText_iff {key : Text} {v : Value} : v.isText key = true ↔ v = .text key := by
  cases v with
  | text t => rw [isText, beq_iff_eq, text.injEq]
  | _ => simp [isText]

namespace Entries

/-- What is kept by its key is found as before, and nothing else is found. -/
theorem get?_filter (key : Text) (keep : Value → Bool) (entries : Entries) :
    get? key (entries.filter fun entry => keep entry.1) =
      if keep (.text key) then get? key entries else none := by
  induction entries with
  | nil => simp [get?]
  | cons entry rest ih =>
    obtain ⟨k, v⟩ := entry
    rw [List.filter_cons]
    by_cases same : k.isText key = true
    · rw [Value.isText_iff] at same
      subst same
      split
      · simp [get?, Value.isText, *]
      · simp [*]
    · split
      · rw [get?, if_neg same, get?, if_neg same, ih]
      · rw [get?, if_neg same, ih]

theorem get?_without_self (key : Text) (entries : Entries) : get? key (without key entries) = none := by
  rw [without, get?_filter key fun k => !k.isText key]
  simp [Value.isText]

/-- Leaving out one key does not change what stands under another. -/
theorem get?_without_of_ne {key other : Text} (different : key ≠ other) (entries : Entries) :
    get? key (without other entries) = get? key entries := by
  rw [without, get?_filter key fun k => !k.isText other]
  simp [Value.isText, different]

end Entries

namespace Definition

theorem FieldName.find?_without_of_ne {field : FieldName} {key : Text} (camel : field.camel ≠ key)
    (snake : field.snake ≠ key) (entries : Entries) :
    field.find? (entries.without key) = field.find? entries := by
  rw [find?, find?, Entries.get?_without_of_ne camel, Entries.get?_without_of_ne snake]

/-! ## Reading in parts -/

namespace ConfigDraft

/-- Reads the mappings of a definition. -/
def readMappings (v : Value) : Checked (List MappingDraft) :=
  match readList (nullAsEmpty v) with
  | .value items => Checked.items MappingDraft.read items
  | .faults found => .faults found

/-- A definition is read field by field. -/
theorem read_eq_value_iff {entries : Entries} {draft : ConfigDraft} :
    ConfigDraft.read (.map entries) = .value draft ↔
      sourceSystemField.read entries none (orNull readText) = .value draft.sourceSystem ∧
      jobNameField.read entries none (orNull readText) = .value draft.jobName ∧
      transactionTypeField.read entries defaultTransactionType readTransactionType =
        .value draft.transactionType ∧
      mappingsField.read entries [] readMappings = .value draft.mappings ∧
      versionField.read entries 1 readInteger = .value draft.version ∧
      lastModifiedField.read entries none (orNull readTimestamp) =
        .value draft.lastModified := by
  obtain ⟨sourceSystem, jobName, transactionType, mappings, version, lastModified⟩ := draft
  rw [ConfigDraft.read, Value.opened_map]
  simp only [Checked.seq_eq_value_iff, Checked.map_eq_value_iff]
  constructor
  · rintro ⟨_, _, ⟨_, _, ⟨_, _, ⟨_, _, ⟨_, _, ⟨_, h1, rfl⟩, h2, rfl⟩, h3, rfl⟩, h4, rfl⟩, h5, rfl⟩,
      h6, made⟩
    cases made
    exact ⟨h1, h2, h3, h4, h5, h6⟩
  · rintro ⟨h1, h2, h3, h4, h5, h6⟩
    exact ⟨_, _, ⟨_, _, ⟨_, _, ⟨_, _, ⟨_, _, ⟨_, h1, rfl⟩, h2, rfl⟩, h3, rfl⟩, h4, rfl⟩, h5, rfl⟩,
      h6, rfl⟩

/-- The entries of a definition without its mappings. -/
def withoutMappings (entries : Entries) : Entries :=
  (entries.without mappingsField.camel).without mappingsField.snake

/-- Every other field is read as if the mappings were there. -/
theorem readField_withoutMappings {α : Type} {field : FieldName} (entries : Entries)
    (other : field ∈ fields.erase mappingsField) (otherwise : α) (reader : Value → Checked α) :
    field.read (withoutMappings entries) otherwise reader = field.read entries otherwise reader := by
  have names : field.camel ≠ mappingsField.camel ∧ field.snake ≠ mappingsField.camel ∧
      field.camel ≠ mappingsField.snake ∧ field.snake ≠ mappingsField.snake := by
    revert field
    decide
  obtain ⟨camel, snake, camel', snake'⟩ := names
  rw [FieldName.read, withoutMappings, FieldName.find?_without_of_ne camel' snake',
    FieldName.find?_without_of_ne camel snake, FieldName.read]

/-- What is read of the rest of a definition is what reading the whole gives, without mappings. -/
theorem read_withoutMappings {entries : Entries} {draft : ConfigDraft}
    (read : ConfigDraft.read (.map entries) = .value draft) :
    ConfigDraft.read (.map (withoutMappings entries)) = .value { draft with mappings := [] } := by
  obtain ⟨sourceSystem, jobName, transactionType, -, version, lastModified⟩ :=
    read_eq_value_iff.1 read
  have missing : mappingsField.find? (withoutMappings entries) = none := by
    rw [FieldName.find?, withoutMappings, Entries.get?_without_self,
      Entries.get?_without_of_ne (by decide), Entries.get?_without_self]
    rfl
  rw [read_eq_value_iff]
  refine ⟨?_, ?_, ?_, ?_, ?_, ?_⟩
  · rw [readField_withoutMappings entries (by decide)]
    exact sourceSystem
  · rw [readField_withoutMappings entries (by decide)]
    exact jobName
  · rw [readField_withoutMappings entries (by decide)]
    exact transactionType
  · rw [FieldName.read, missing]
  · rw [readField_withoutMappings entries (by decide)]
    exact version
  · rw [readField_withoutMappings entries (by decide)]
    exact lastModified

end ConfigDraft

/-! ## The mappings under either name -/

/-- The value is null or a list. -/
def IsListed (v : Value) : Prop := v.opened = .null ∨ ∃ items, v.opened = .list items

/-- The mappings are given so that the check sees those that are read: in a list, where they are given at
all, and with nothing under the snake-case name when the camel-case one has null. -/
structure PlainMappings (entries : Entries) : Prop where
  listed : IsListed (givenMappings entries)
  uncovered : entries.get? ConfigDraft.mappingsField.camel = some .null →
    (entries.getD ConfigDraft.mappingsField.snake).opened = .null ∨
      (entries.getD ConfigDraft.mappingsField.snake).opened = .list []

theorem mappingList_faults_eq_nil_iff {v : Value} : (mappingList v).2 = [] ↔ IsListed v := by
  unfold mappingList IsListed
  cases v.opened <;> simp

theorem mappingList_eq_nil_iff {v : Value} :
    mappingList v = ([], []) ↔ v.opened = .null ∨ v.opened = .list [] := by
  unfold mappingList
  cases v.opened <;> simp

theorem mappingList_of_list {v : Value} {items : List Value} (list : v.opened = .list items) :
    mappingList v = (items, []) := by
  rw [mappingList, list]

/-- The items of a list of mappings stand beside the drafts that they are read as. -/
def ReadAs (items : List Value) (mappings : List MappingDraft) : Prop :=
  List.Forall₂ (fun item m => MappingDraft.read item = .value m) items mappings

theorem nullAsEmpty_of_ne {v : Value} (h : v ≠ .null) : nullAsEmpty v = v := by
  cases v with
  | null => exact absurd rfl h
  | _ => rfl

theorem mappingList_of_readMappings {v : Value} {mappings : List MappingDraft} (listed : IsListed v)
    (read : ConfigDraft.readMappings v = .value mappings) :
    ∃ items, mappingList v = (items, []) ∧ ReadAs items mappings := by
  unfold ConfigDraft.readMappings at read
  by_cases null : v = .null
  · subst null
    cases read
    exact ⟨[], rfl, .nil⟩
  · rw [nullAsEmpty_of_ne null, readList] at read
    rcases listed with openedNull | ⟨items, list⟩
    · rw [openedNull] at read
      cases read
    · rw [list] at read
      exact ⟨items, mappingList_of_list list, (Checked.itemsFrom_eq_value_iff 0).1 read⟩

/-- Where the mappings are given plainly, the check looks at those that are read. -/
theorem PlainMappings.mappingList_eq {entries : Entries} {mappings : List MappingDraft}
    (plain : PlainMappings entries)
    (read : ConfigDraft.mappingsField.read entries [] ConfigDraft.readMappings = .value mappings) :
    ∃ items, mappingList (givenMappings entries) = (items, []) ∧ ReadAs items mappings := by
  have listed := plain.listed
  have uncovered := plain.uncovered
  unfold FieldName.read FieldName.find? at read
  unfold givenMappings Entries.getD at listed ⊢
  cases camel : entries.get? ConfigDraft.mappingsField.camel with
  | none =>
    simp only [camel] at read listed ⊢
    cases snake : entries.get? ConfigDraft.mappingsField.snake with
    | none =>
      simp only [snake] at read
      cases read
      exact ⟨[], rfl, .nil⟩
    | some v =>
      simp only [snake] at read listed ⊢
      exact mappingList_of_readMappings listed (Checked.under_eq_value_iff.1 read)
  | some v =>
    simp only [camel] at read listed ⊢
    have readV := Checked.under_eq_value_iff.1 read
    cases v with
    | null =>
      cases readV
      exact ⟨[], mappingList_eq_nil_iff.2 (uncovered camel), .nil⟩
    | _ => exact mappingList_of_readMappings listed readV

/-- What has no faults is read in parts as it is read as a whole. -/
theorem readPartially_of_value {α : Type} {fields : List FieldName} {blank draft : α}
    {read : Value → Checked α} {v : Value} (h : read v = .value draft) :
    readPartially fields blank read v = ⟨draft, []⟩ := by
  rw [readPartially, h]

theorem map_readPartially_of_readAs {items : List Value} {mappings : List MappingDraft}
    (h : ReadAs items mappings) :
    items.map MappingDraft.readPartially = mappings.map fun m => ⟨m, []⟩ :=
  map_eq_map_of_forall₂ h fun _ _ read => readPartially_of_value read

/-- Where the rest of a definition and every mapping are read, the check sees the draft they make together. -/
theorem readSubmission_of_parts {entries : Entries} {rest : ConfigDraft} {items : List Value}
    {mappings : List MappingDraft}
    (readRest : ConfigDraft.read (.map (ConfigDraft.withoutMappings entries)) = .value rest)
    (list : mappingList (givenMappings entries) = (items, [])) (beside : ReadAs items mappings) :
    readSubmission (.entries entries) = readSubmission (.draft { rest with mappings := mappings }) := by
  have readPart : ConfigDraft.readPartially (.map (ConfigDraft.withoutMappings entries)) = ⟨rest, []⟩ :=
    readPartially_of_value readRest
  rw [ConfigDraft.withoutMappings] at readPart
  have noFaults : ((mappings.map fun m => (⟨m, []⟩ : Partial MappingDraft)).zipIdx.flatMap
      fun entry => entry.1.faults.map fun fault =>
        (fault.under (.index entry.2)).under (.key ConfigDraft.mappingsField.camel)) = [] := by
    rw [List.zipIdx_map, List.flatMap_map]
    simp
  simp only [readSubmission, list, readPart, map_readPartially_of_readAs beside, noFaults, List.map_map,
    List.append_nil]
  have drafts : mappings.map (Partial.draft ∘ fun m => ⟨m, []⟩) = mappings := List.map_id _
  rw [drafts]
  rfl

/-- Of a definition whose mappings are given plainly, the check sees what reading it gives. -/
theorem readSubmission_of_plain {entries : Entries} {draft : ConfigDraft}
    (plain : PlainMappings entries) (read : ConfigDraft.read (.map entries) = .value draft) :
    readSubmission (.entries entries) = readSubmission (.draft draft) := by
  obtain ⟨items, list, beside⟩ :=
    plain.mappingList_eq (ConfigDraft.read_eq_value_iff.1 read).2.2.2.1
  have seen := readSubmission_of_parts (ConfigDraft.read_withoutMappings read) list beside
  exact seen

/-! ## What a report shows of the reading -/

/-- Checking mappings finds nothing but faults of mappings. -/
theorem exists_mapping_of_mem_checkMappings {reading : Reading} {fault : ShapeFault}
    (h : fault ∈ (checkMappings reading).errors) : ∃ label found, fault = .mapping label found := by
  rw [checkMappings, foldl_append, List.nil_append, List.mem_flatMap] at h
  obtain ⟨report, hr, hf⟩ := h
  obtain ⟨⟨⟨m, clean⟩, index⟩, -, rfl⟩ := List.mem_map.1 hr
  cases clean with
  | false => cases hf
  | true =>
    simp only [if_true, checkMapping] at hf
    split at hf
    · obtain ⟨found, -, rfl⟩ := List.mem_map.1 hf
      exact ⟨_, found, rfl⟩
    · obtain ⟨found, -, rfl⟩ := List.mem_map.1 hf
      exact ⟨_, found, rfl⟩

/-- What is found behind the faults of the reading is no type fault. -/
theorem wrongType_notMem_checks {maximum : Int} {reading : Reading} {fault : TypeFault} :
    .wrongType fault ∉ checkWhole reading.draft ++ (checkMappings reading).errors ++
      checkLength maximum reading.draft := by
  have notOfMapping : .wrongType fault ∉ (checkMappings reading).errors := by
    intro h
    obtain ⟨_, _, made⟩ := exists_mapping_of_mem_checkMappings h
    cases made
  have notOfLength : .wrongType fault ∉ checkLength maximum reading.draft := by
    simp [checkLength]
  have notOfWhole : .wrongType fault ∉ checkWhole reading.draft := by
    simp [checkWhole, keyCollisions]
  simp [notOfMapping, notOfLength, notOfWhole]

/-- The fault of a type, if that is what is wrong. -/
def ShapeFault.typeFault? : ShapeFault → Option TypeFault
  | .wrongType fault => some fault
  | _ => none

/-- The type faults that are reported are the faults of the reading, each once and in order. -/
theorem typeFaults_checkShape (maximum : Int) (submission : Submission) :
    (checkShape maximum submission).errors.filterMap ShapeFault.typeFault? =
      (readSubmission submission).faults := by
  have noOthers : (checkWhole (readSubmission submission).draft ++
      (checkMappings (readSubmission submission)).errors ++
      checkLength maximum (readSubmission submission).draft).filterMap ShapeFault.typeFault? = [] := by
    rw [List.filterMap_eq_nil_iff]
    intro fault member
    cases fault with
    | wrongType found => exact absurd member wrongType_notMem_checks
    | _ => rfl
  have reported : ShapeFault.typeFault? ∘ ShapeFault.wrongType = some := rfl
  rw [checkShape, List.append_assoc, List.append_assoc, ← List.append_assoc (checkWhole _), List.filterMap_append,
    noOthers, List.append_nil, List.filterMap_map, reported, List.filterMap_some]

/-- The faults of the reading are the type faults that are reported. -/
theorem wrongType_mem_checkShape_iff {maximum : Int} {submission : Submission} {fault : TypeFault} :
    .wrongType fault ∈ (checkShape maximum submission).errors ↔
      fault ∈ (readSubmission submission).faults := by
  rw [← typeFaults_checkShape maximum, List.mem_filterMap]
  constructor
  · exact fun h => ⟨_, h, rfl⟩
  · rintro ⟨found, member, made⟩
    cases found with
    | wrongType other =>
      cases made
      exact member
    | _ => cases made

/-- That there are no mappings is reported exactly when none is seen. -/
theorem noMappings_mem_checkShape_iff {maximum : Int} {submission : Submission} :
    .noMappings ∈ (checkShape maximum submission).errors ↔
      (readSubmission submission).draft.mappings = [] := by
  have notOfMapping : .noMappings ∉ (checkMappings (readSubmission submission)).errors := by
    intro h
    obtain ⟨_, _, made⟩ := exists_mapping_of_mem_checkMappings h
    cases made
  have notOfLength : .noMappings ∉ checkLength maximum (readSubmission submission).draft := by
    simp [checkLength]
  have ofWhole : .noMappings ∈ checkWhole (readSubmission submission).draft ↔
      (readSubmission submission).draft.mappings = [] := by
    simp [checkWhole, keyCollisions]
  simp [checkShape, notOfMapping, notOfLength, ofWhole]

/-! ## Checking what is converted -/

section
variable {entries : Entries} {draft : ConfigDraft} {maximum : Int}

theorem toDraft_of_read (read : ConfigDraft.read (.map entries) = .value draft) :
    (Submission.entries entries).toDraft = .ok draft := by
  rw [Submission.toDraft, read]
  rfl

theorem mappings_eq_nil_of_null (read : ConfigDraft.read (.map entries) = .value draft)
    (null : entries.get? ConfigDraft.mappingsField.camel = some .null) : draft.mappings = [] := by
  have mappings := (ConfigDraft.read_eq_value_iff.1 read).2.2.2.1
  rw [FieldName.read, FieldName.find?, null] at mappings
  have noItems : (Checked.value [] : Checked (List MappingDraft)) = .value draft.mappings := mappings
  exact (Checked.value.inj noItems).symm

/-- When the map and its draft have the same report, the mappings are given plainly. -/
theorem plain_of_checkShape_eq (read : ConfigDraft.read (.map entries) = .value draft)
    (same : checkShape maximum (.entries entries) = checkShape maximum (.draft draft)) :
    PlainMappings entries := by
  have noFaults : (mappingList (givenMappings entries)).2 = [] := by
    rw [List.eq_nil_iff_forall_not_mem]
    intro fault hf
    -- It would be a fault of the whole reading, and the draft has none to report.
    have seen : fault ∈ (readSubmission (.entries entries)).faults :=
      List.mem_append_left _ (List.mem_append_right _ hf)
    have reported : .wrongType fault ∈ (checkShape maximum (.entries entries)).errors :=
      wrongType_mem_checkShape_iff.2 seen
    rw [same, wrongType_mem_checkShape_iff] at reported
    cases reported
  refine ⟨mappingList_faults_eq_nil_iff.1 noFaults, ?_⟩
  intro null
  -- The draft has no mappings and is reported for it, so the check of the map has seen none.
  have reported : .noMappings ∈ (checkShape maximum (.entries entries)).errors := by
    rw [same, noMappings_mem_checkShape_iff]
    exact mappings_eq_nil_of_null read null
  have given : givenMappings entries = entries.getD ConfigDraft.mappingsField.snake := by
    rw [givenMappings, Entries.getD, null]
    rfl
  rw [noMappings_mem_checkShape_iff] at reported
  simp only [readSubmission, List.map_eq_nil_iff] at reported
  rw [given] at reported noFaults
  exact mappingList_eq_nil_iff.1 (Prod.ext reported noFaults)

/-- A map that is read without faults is checked as what was read exactly when its mappings are given
plainly. Then the mappings that were checked are those that a layout is made of. -/
theorem checkShape_entries_iff (maximum : Int) (read : ConfigDraft.read (.map entries) = .value draft) :
    (checkShape maximum (.entries entries) = checkShape maximum (.draft draft) ↔
      PlainMappings entries) ∧
    (PlainMappings entries →
      (readSubmission (.entries entries)).draft = draft ∧
      load maximum (.entries entries) = load maximum (.draft draft) ∧
      Compiled.compile maximum (.entries entries) = Compiled.compile maximum (.draft draft)) := by
  have checked : PlainMappings entries →
      checkShape maximum (.entries entries) = checkShape maximum (.draft draft) := by
    intro plain
    rw [checkShape, checkShape, readSubmission_of_plain plain read]
  refine ⟨⟨plain_of_checkShape_eq read, checked⟩, ?_⟩
  intro plain
  have loaded : load maximum (.entries entries) = load maximum (.draft draft) := by
    rw [load, load, checked plain, convert, convert, toDraft_of_read read, Submission.toDraft]
  refine ⟨?_, loaded, ?_⟩
  · rw [readSubmission_of_plain plain read]
    rfl
  · rw [Compiled.compile, Compiled.compile, loaded]

end

/-! ### Null under one name -/

/-- A mapping of one character. -/
def markEntries : Entries :=
  [(.text "targetFieldName", .text "MARK"), (.text "targetPosition", .int 1), (.text "length", .int 1),
   (.text "transformationType", .text "constant"), (.text "value", .text ['*'])]

/-- A definition with the given entries for its mappings. -/
def markDefinition (mappings : Entries) : Entries :=
  (.text "sourceSystem", .text "CORE") :: (.text "jobName", .text "daily") :: mappings

/-- The draft of such a definition. -/
def markDraft (mappings : List MappingDraft) : ConfigDraft :=
  ⟨some "CORE", some "daily", ConfigDraft.defaultTransactionType, mappings, 1, none⟩

/-- Null under the snake-case name covers nothing: the mapping is checked, read and converted. -/
theorem checkShape_entries_iff_nullSnake :
    let entries := markDefinition
      [(.text "field_mappings", .null), (.text "fieldMappings", .list [.map markEntries])]
    let draft := markDraft [{ MappingDraft.blank with
      targetFieldName := some "MARK", targetPosition := some 1, length := some 1,
      transformationType := some "constant", value := some ['*'] }]
    ConfigDraft.read (.map entries) = .value draft ∧
      checkShape defaultMaxLength (.entries entries) = checkShape defaultMaxLength (.draft draft) ∧
      load defaultMaxLength (.entries entries) = load defaultMaxLength (.draft draft) := by
  intro entries draft
  have read : ConfigDraft.read (.map entries) = .value draft := rfl
  have plain : PlainMappings entries := ⟨Or.inr ⟨[.map markEntries], rfl⟩, fun null => by cases null⟩
  obtain ⟨checked, converted⟩ := checkShape_entries_iff defaultMaxLength read
  exact ⟨read, checked.2 plain, (converted plain).2.1⟩

/-- Null under the camel-case name covers the mapping: it is checked without a fault, and the layout that is
made has no mappings at all, of which checking what was read would have said so. -/
theorem checkShape_coveredMappings :
    let entries := markDefinition
      [(.text "fieldMappings", .null), (.text "field_mappings", .list [.map markEntries])]
    ConfigDraft.read (.map entries) = .value (markDraft []) ∧
      (checkShape defaultMaxLength (.draft (markDraft []))).errors = [.noMappings] ∧
      (checkShape defaultMaxLength (.entries entries)).errors = [] ∧
      load defaultMaxLength (.entries entries) =
        .ok ⟨"CORE", "daily", ConfigDraft.defaultTransactionType, [], 1, none⟩ := by
  intro entries
  have read : ConfigDraft.read (.map entries) = .value (markDraft []) := rfl
  have accepted : (checkShape defaultMaxLength (.entries entries)).errors = [] := by decide +kernel
  refine ⟨read, ?_, accepted, ?_⟩
  · decide +kernel
  · have valid : (checkShape defaultMaxLength (.entries entries)).valid = true := by
      rw [ShapeReport.valid, accepted]
      rfl
    rw [load, if_pos valid, convert, toDraft_of_read read]
    rfl

end Definition
end FixedExtract
