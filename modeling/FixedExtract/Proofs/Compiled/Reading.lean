import FixedExtract.Proofs.Compiled.Fields
/-!
# Reading the document of a layout

The document of a layout is read as the draft of the layout: every entry that was left out because it has
its usual value is missing from the draft as well. The proofs follow the documents from the innermost
ones, the else-if branches, outwards.
-/

namespace FixedExtract.Compiled

open Definition (Checked ConditionDraft ConfigDraft FieldName MappingDraft SourceDraft
  orNull_readWritten_text orNull_readText_text)
open Layout (Condition Config Mapping Transformation)
open Yaml (Document)

/-! ## Conditions -/

theorem read_elseIfDocument (fuel : Nat) (around : List Nat) (branch : Layout.ElseIf) :
    ConditionDraft.readWithin (fuel + 1) around (elseIfDocument branch).toValue =
      .value (ConditionDraft.ofElseIf branch) := by
  have written : ∀ key : String, List.lookup key.toList
      [entry "ifExpr" branch.condition, entry "then" branch.value] =
      if key == "ifExpr" then some (.text branch.condition)
      else if key == "then" then some (.text branch.value) else none := by
    intro key
    simp only [lookup_entry_cons, List.lookup_nil]
  rw [ConditionDraft.readWithin, elseIfDocument, Document.toValue]
  simp only [Value.label?, Option.any_none, Bool.false_eq_true, if_false, Value.opened]
  refine Checked.seq_eq_value (Checked.seq_eq_value (Checked.seq_eq_value
    (Checked.map_eq_value _ ?ifExpr) ?value) ?elseIfs) ?elseExpr
  case ifExpr => exact FieldName.read_of_camel (written "ifExpr") rfl
  case value => exact FieldName.read_of_camel (written "then") rfl
  case elseIfs => exact FieldName.read_of_missing (written "elseIfExprs") (written "else_if_exprs")
  case elseExpr => exact FieldName.read_of_missing (written "elseExpr") (written "else_expr")

/-- The document of the else-if branches of a condition, if it has any. -/
def elseIfsDocument? (c : Condition) : Option Document :=
  if c.elseIfs.isEmpty then none else some (.list (c.elseIfs.map elseIfDocument))

theorem lookup_elseIfFields (key : String) (c : Condition) :
    (elseIfFields c).lookup key.toList = if key == "elseIfExprs" then elseIfsDocument? c else none := by
  unfold elseIfFields elseIfsDocument?
  split
  · rw [List.lookup_nil, ite_self]
  · rw [lookup_field_cons, List.lookup_nil]

theorem read_conditionDocument (c : Condition) :
    ConditionDraft.read (conditionDocument c).toValue = .value (ConditionDraft.ofCondition c) := by
  have written : ∀ key : String, List.lookup key.toList
      (entry "ifExpr" c.ifExpr.text :: entry "then" c.value :: elseIfFields c ++
        optional "elseExpr" c.elseExpr) =
      if key == "ifExpr" then some (.text c.ifExpr.text)
      else if key == "then" then some (.text c.value)
      else (if key == "elseIfExprs" then elseIfsDocument? c else none).or
        (if key == "elseExpr" then c.elseExpr.map Document.text else none) := by
    intro key
    simp only [List.cons_append, lookup_entry_cons, List.lookup_append, lookup_elseIfFields,
      lookup_optional]
  rw [ConditionDraft.read, ConditionDraft.maxDepth, ConditionDraft.readWithin, conditionDocument,
    Document.toValue]
  simp only [Value.label?, Option.any_none, Bool.false_eq_true, if_false, Value.opened]
  refine Checked.seq_eq_value (Checked.seq_eq_value (Checked.seq_eq_value
    (Checked.map_eq_value _ ?ifExpr) ?value) ?elseIfs) ?elseExpr
  case ifExpr => exact FieldName.read_of_camel (written "ifExpr") rfl
  case value => exact FieldName.read_of_camel (written "then") rfl
  case elseExpr =>
    exact FieldName.read_optional (written "elseExpr") (written "else_expr")
      orNull_readWritten_text
  case elseIfs =>
    cases branches : c.elseIfs with
    | nil =>
      refine FieldName.read_of_missing ?_ (written "else_if_exprs")
      rw [written, elseIfsDocument?, branches]
      rfl
    | cons first rest =>
      have given : elseIfsDocument? c = some (.list (c.elseIfs.map elseIfDocument)) := by
        rw [elseIfsDocument?, branches]
        rfl
      refine FieldName.read_of_camel
        ((written "elseIfExprs").trans (congrArg (·.or none) given)) ?_
      rw [Document.toValue, Document.itemValues_eq_map, List.map_map, ← branches]
      exact Checked.items_eq_value fun branch _ => read_elseIfDocument 253 [] branch

/-! ## Mappings -/

theorem read_source (source : Layout.NonBlank) :
    SourceDraft.read (Document.text source.text).toValue = .value (.name source.text) := rfl

/-- The entries of a mapping have no settings to lift. -/
theorem lift_mappingFields (m : Mapping) :
    MappingDraft.lift (Document.entryValues (mappingFields m)) =
      Document.entryValues (mappingFields m) := by
  have written := fun key =>
    (lookup_mappingFields key m).trans (congrArg (ite _ _) (lookup_settingFields key m))
  have noSettings : MappingDraft.settings? (Document.entryValues (mappingFields m)) = none := by
    have missing : MappingDraft.transformationConfigField.find?
        (Document.entryValues (mappingFields m)) = none :=
      FieldName.find?_eq_none (written "transformationConfig")
        (written "transformation_config")
    rw [MappingDraft.settings?, missing]
  rw [MappingDraft.lift, noSettings]

/-- The entries of a mapping are read as the draft of the mapping. -/
theorem readLifted_mappingFields (m : Mapping) :
    MappingDraft.readLifted (Document.entryValues (mappingFields m)) =
      .value (MappingDraft.ofMapping m) := by
  have written := fun key =>
    (lookup_mappingFields key m).trans (congrArg (ite _ _) (lookup_settingFields key m))
  refine Checked.seq_eq_value (a := ()) (Checked.seq_eq_value (Checked.seq_eq_value
    (Checked.seq_eq_value (Checked.seq_eq_value (Checked.seq_eq_value (Checked.seq_eq_value
    (Checked.seq_eq_value (Checked.seq_eq_value (Checked.seq_eq_value (Checked.seq_eq_value
    (Checked.seq_eq_value (Checked.seq_eq_value (Checked.seq_eq_value
    (Checked.map_eq_value _ ?name) ?position) ?length)
    ?dataType) ?kind) ?source) ?value) ?default) ?sources) ?delimiter) ?transform) ?conditions)
    ?pad) ?padChar) ?settings
  case name => exact FieldName.read_of_camel (written "targetFieldName") rfl
  case position => exact FieldName.read_of_camel (written "targetPosition") rfl
  case length => exact FieldName.read_of_camel (written "length") rfl
  case dataType => exact FieldName.read_of_camel (written "dataType") rfl
  case kind => exact FieldName.read_of_camel (written "transformationType") rfl
  case source =>
    exact FieldName.read_optional (written "sourceField") (written "source_field")
      orNull_readText_text
  case value => exact FieldName.read_optional_alike (written "value") orNull_readWritten_text
  case default =>
    exact FieldName.read_optional (written "defaultValue") (written "default_value")
      orNull_readWritten_text
  -- Sources and conditions are lists, which only one kind of transformation writes.
  case sources =>
    cases transformation : m.transformation with
    | composite sources delimiter operation nonEmpty =>
      refine FieldName.read_of_camel (by rw [written, transformation]; rfl) ?_
      rw [Document.toValue, Document.itemValues_eq_map, List.map_map]
      exact Checked.items_eq_value fun source _ => read_source source
    | source _ | constant _ | conditional _ _ =>
      have missing : (mappingFields m).lookup "sources".toList = none := by
        rw [written, transformation]
        rfl
      exact FieldName.read_of_missing missing missing
  case delimiter =>
    exact FieldName.read_optional_alike (written "delimiter") orNull_readWritten_text
  case transform => exact FieldName.read_optional_alike (written "transform") orNull_readText_text
  case conditions =>
    cases transformation : m.transformation with
    | conditional conditions nonEmpty =>
      refine FieldName.read_of_camel (by rw [written, transformation]; rfl) ?_
      rw [Document.toValue, Document.itemValues_eq_map, List.map_map]
      exact Checked.items_eq_value fun condition _ => read_conditionDocument condition
    | source _ | constant _ | composite _ _ _ _ =>
      have missing : (mappingFields m).lookup "conditions".toList = none := by
        rw [written, transformation]
        rfl
      exact FieldName.read_of_missing missing missing
  case pad => exact FieldName.read_of_camel (written "pad") rfl
  case padChar =>
    exact FieldName.read_optional (written "padChar") (written "pad_char") orNull_readText_text
  case settings =>
    exact FieldName.read_of_missing (written "transformationConfig") (written "transformation_config")

theorem read_mappingFields (m : Mapping) :
    MappingDraft.read (.map (Document.entryValues (mappingFields m))) =
      .value (MappingDraft.ofMapping m) := by
  rw [MappingDraft.read, Value.opened_map]
  simp only
  rw [lift_mappingFields, readLifted_mappingFields]

/-! ## Layouts -/

/-- The fields of a document become the entries of mappings, in order. -/
theorem mappingsOf_fields (index : Nat) (mappings : List Mapping) :
    mappingsOf index (Document.entryValues
        (mappings.map fun m => (Definition.fieldKey m.name, mappingDocument m))) =
      .ok (mappings.map fun m => .map (Document.entryValues (mappingFields m))) := by
  induction mappings with
  | nil => rfl
  | cons m rest ih =>
    rw [List.map_cons, Document.entryValues, mappingDocument_eq, Document.toValue, mappingsOf,
      Value.opened_map]
    simp only [ih, mappingEntries_mappingDocument]
    rfl

/-- The entries that a definition is read from, once the fields are mappings. -/
def definitionFields (config : Config) : Fields :=
  [entry "sourceSystem" config.sourceSystem, entry "jobName" config.jobName,
    entry "transactionType" config.transactionType,
    field "fieldMappings" (.list (config.mappings.map fun m => .map (mappingFields m)))]

theorem lookup_definitionFields (key : String) (config : Config) :
    (definitionFields config).lookup key.toList =
      if key == "sourceSystem" then some (.text config.sourceSystem)
      else if key == "jobName" then some (.text config.jobName)
      else if key == "transactionType" then some (.text config.transactionType)
      else if key == "fieldMappings" then
        some (.list (config.mappings.map fun m => .map (mappingFields m)))
      else none := by
  simp only [definitionFields, lookup_entry_cons, lookup_field_cons, List.lookup_nil]

theorem read_definitionFields {config : Config}
    (typed : Text.isBlank config.transactionType = false) :
    ConfigDraft.read (.map (Document.entryValues (definitionFields config))) =
      .value (ConfigDraft.ofConfig config) := by
  have written := fun key => lookup_definitionFields key config
  rw [ConfigDraft.read, Value.opened_map]
  refine Checked.seq_eq_value (Checked.seq_eq_value (Checked.seq_eq_value (Checked.seq_eq_value
    (Checked.seq_eq_value (Checked.map_eq_value _ ?source) ?job) ?type) ?mappings) ?version)
    ?modified
  case source => exact FieldName.read_of_camel (written "sourceSystem") rfl
  case job => exact FieldName.read_of_camel (written "jobName") rfl
  case type =>
    refine FieldName.read_of_camel (written "transactionType") ?_
    rw [Document.toValue, ConfigDraft.readTransactionType, typed]
    rfl
  case mappings =>
    refine FieldName.read_of_camel (written "fieldMappings") ?_
    rw [Document.toValue, Document.itemValues_eq_map, List.map_map]
    exact Checked.items_eq_value fun m _ => read_mappingFields m
  case version => exact FieldName.read_of_missing (written "version") (written "version")
  case modified => exact FieldName.read_of_missing (written "lastModified") (written "last_modified")

/-- The draft of a layout is among the drafts that are read. -/
theorem parsed_ofConfig {config : Config} (typed : Text.isBlank config.transactionType = false) :
    (ConfigDraft.ofConfig config).Parsed := by
  refine ⟨Document.entryValues (definitionFields config), read_definitionFields typed, ?_⟩
  intro name bytes same
  have found : ConfigDraft.transactionTypeField.find? (Document.entryValues (definitionFields config)) =
      some ("transactionType".toList, .text config.transactionType) :=
    FieldName.find?_of_camel (lookup_definitionFields "transactionType" config)
  rw [found] at same
  cases (Prod.mk.inj (Option.some.inj same)).2

/-- The entries of the document of a layout. -/
def documentFields (config : Config) : Fields :=
  [entry "fileType" config.jobName, entry "sourceSystem" config.sourceSystem,
    entry "transactionType" config.transactionType,
    field "fields" (.map (fieldDocuments config.mappings))]

theorem document_eq (config : Config) : document config = .map (documentFields config) := rfl

theorem getD_documentFields (key : String) (config : Config) :
    Entries.getD key.toList (Document.entryValues (documentFields config)) =
      if key == "fileType" then .text config.jobName
      else if key == "sourceSystem" then .text config.sourceSystem
      else if key == "transactionType" then .text config.transactionType
      else if key == "fields" then .map (Document.entryValues (fieldDocuments config.mappings))
      else .null := by
  rw [Entries.getD, Document.get?_entryValues]
  simp only [documentFields, lookup_entry_cons, lookup_field_cons, List.lookup_nil]
  split_ifs <;> rfl

/-- What is read of a document is the definition with the same parts. -/
theorem definitionOf_documentFields (config : Config) :
    definitionOf (Document.entryValues (documentFields config))
        (config.mappings.map fun m => .map (Document.entryValues (mappingFields m))) =
      Document.entryValues (definitionFields config) := by
  have source := getD_documentFields "sourceSystem" config
  have job := getD_documentFields "fileType" config
  have type := getD_documentFields "transactionType" config
  have mappings : (Document.list (config.mappings.map fun m => .map (mappingFields m))).toValue =
      .list (config.mappings.map fun m => .map (Document.entryValues (mappingFields m))) := by
    rw [Document.toValue, Document.itemValues_eq_map, List.map_map]
    rfl
  rw [definitionOf, source, job, type, ← mappings]
  rfl

/-- The document of a layout whose fields have different keys is read as the draft of the layout. -/
theorem readDocument_document (index : Nat) {config : Config}
    (distinct : (config.mappings.map fun m => Definition.fieldKey m.name).Nodup)
    (typed : Text.isBlank config.transactionType = false) :
    readDocument index (document config).toValue = .ok (ConfigDraft.ofConfig config) := by
  have fields := getD_documentFields "fields" config
  rw [readDocument, document_eq, Document.toValue, Value.opened_map]
  simp only
  rw [fields]
  simp only [String.reduceBEq, Bool.false_eq_true, if_false, if_true, Value.opened_map]
  rw [fieldDocuments_eq_map distinct, mappingsOf_fields, bind_eq_ok_iff]
  refine ⟨_, rfl, ?_⟩
  rw [definitionOf_documentFields, read_definitionFields typed]
  rfl

/-- Text whose documents are those of sound layouts is read as the drafts of the layouts. -/
theorem readText_of_readAll {text : Text} {configs : List Config}
    (documents : Yaml.readAll text = .ok (configs.map fun config => (document config).toValue))
    (distinct : ∀ config ∈ configs,
      (config.mappings.map fun m => Definition.fieldKey m.name).Nodup)
    (typed : ∀ config ∈ configs, Text.isBlank config.transactionType = false) :
    readText text = .ok (configs.map ConfigDraft.ofConfig) := by
  have noNull : (configs.map fun config => (document config).toValue).filter (fun v => !v.isNull) =
      configs.map fun config => (document config).toValue := by
    rw [List.filter_eq_self, List.forall_mem_map]
    intro config _
    rfl
  rw [readText, documents]
  simp only [noNull]
  have numbered : configs.map ConfigDraft.ofConfig =
      configs.zipIdx.map fun entry => ConfigDraft.ofConfig entry.1 := by
    conv => lhs; rw [← List.zipIdx_map_fst 0 configs]
    rw [List.map_map]
    rfl
  rw [List.zipIdx_map, numbered, mapM_eq_ok_iff, List.forall₂_map_left_iff,
    List.forall₂_map_right_iff, List.forall₂_same]
  intro entry he
  have member := List.fst_mem_of_mem_zipIdx he
  exact readDocument_document entry.2 (distinct entry.1 member) (typed entry.1 member)

end FixedExtract.Compiled
