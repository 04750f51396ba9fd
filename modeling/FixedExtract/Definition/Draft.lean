import FixedExtract.Definition.Scalar
/-!
# Drafts of definitions

A draft is a definition as somebody edits it: every part may be missing, and nothing is checked but the
types. Every field has a name in camel case, which is looked up first, and one in snake case. Settings
may also stand in a map of their own, from which they are lifted when the mapping does not give them.
-/

namespace FixedExtract.Definition

/-! ## Fields -/

/-- The two names of a field. -/
structure FieldName where
  camel : Text
  snake : Text
  deriving DecidableEq, Repr

namespace FieldName

/-- The value of a field and the name it was found under. -/
def find? (field : FieldName) (entries : Entries) : Option (Text × Value) :=
  match entries.get? field.camel with
  | some v => some (field.camel, v)
  | none => (entries.get? field.snake).map fun v => (field.snake, v)

/-- Reads a field that may be missing. -/
def read (field : FieldName) (entries : Entries) (otherwise : α) (reader : Value → Checked α) :
    Checked α :=
  match field.find? entries with
  | some (name, v) => (reader v).under (.key name)
  | none => .value otherwise

/-- Reads a field that must be there. -/
def require (field : FieldName) (entries : Entries) (reader : Value → Checked α) : Checked α :=
  match field.find? entries with
  | some (name, v) => (reader v).under (.key name)
  | none => (Checked.fail .missing).under (.key field.camel)

end FieldName

/-! ## Conditions -/

structure ConditionDraft where
  ifExpr : Option Text
  value : Option Text
  elseIfs : List ConditionDraft
  elseExpr : Option Text
  deriving Repr

namespace ConditionDraft

def model : Text := "ConditionSchema"

def ifExprField : FieldName := ⟨"ifExpr", "if_expr"⟩
def valueField : FieldName := ⟨"then", "then"⟩
def elseIfsField : FieldName := ⟨"elseIfExprs", "else_if_exprs"⟩
def elseExprField : FieldName := ⟨"elseExpr", "else_expr"⟩

/-- Reads a condition. The fuel bounds how deep else-if branches nest; `around` are the labels of the
conditions it is a branch of, none of which it may be itself. -/
def readWithin : (fuel : Nat) → (around : List Nat) → Value → Checked ConditionDraft
  | 0, _, _ => .fail .recursive
  | fuel + 1, around, v =>
    if v.label?.any around.elem then .fail .recursive
    else
      match v.opened with
      | .map entries =>
        ConditionDraft.mk
          <$> ifExprField.read entries none (orNull readText)
          <*> valueField.read entries none (orNull readWritten)
          <*> elseIfsField.read entries [] (fun branches =>
            match readList branches with
            | .value items => Checked.items (readWithin fuel (v.label?.toList ++ around)) items
            | .faults found => .faults found)
          <*> elseExprField.read entries none (orNull readWritten)
      | _ => .fail (.notModel model)

end ConditionDraft

/-- How deep else-if branches may nest. -/
def ConditionDraft.maxDepth : Nat := 255

/-- Reads a condition. -/
def ConditionDraft.read (v : Value) : Checked ConditionDraft :=
  ConditionDraft.readWithin ConditionDraft.maxDepth [] v

/-! ## Mappings -/

/-- A source of a composite field, named by a text or by an object. -/
inductive SourceDraft where
  | name (text : Text)
  | object (field : Option Text)
  deriving DecidableEq, Repr

namespace SourceDraft

def model : Text := "CompositeSourceSchema"

def sourceField : FieldName := ⟨"sourceField", "source_field"⟩

/-- The name of a source; an object without one has the empty name. -/
def text : SourceDraft → Text
  | .name t => t
  | .object field => field.getD []

/-- Reads a source given as an object. -/
def readObject (v : Value) : Checked (Option Text) :=
  match v.opened with
  | .map entries => sourceField.read entries none (orNull readText)
  | _ => .fail (.notModel model)

/-- Reads a source. When it is neither a text nor an object, both readings are reported. -/
def read (v : Value) : Checked SourceDraft :=
  match readText v, readObject v with
  | .value t, _ => .value (.name t)
  | .faults _, .value field => .value (.object field)
  | .faults asText, .faults asObject =>
    .faults (asText.map (TypeFault.under (.key "str")) ++
      asObject.map (TypeFault.under (.key model)))

end SourceDraft

structure MappingDraft where
  targetFieldName : Option Text
  targetPosition : Option Int
  length : Option Int
  dataType : Option Text
  transformationType : Option Text
  sourceField : Option Text
  value : Option Text
  defaultValue : Option Text
  sources : List SourceDraft
  delimiter : Option Text
  transform : Option Text
  conditions : List ConditionDraft
  pad : Option Text
  padChar : Option Text
  deriving Repr

namespace MappingDraft

def model : Text := "FieldMappingSchema"

def targetFieldNameField : FieldName := ⟨"targetFieldName", "target_field_name"⟩
def targetPositionField : FieldName := ⟨"targetPosition", "target_position"⟩
def lengthField : FieldName := ⟨"length", "length"⟩
def dataTypeField : FieldName := ⟨"dataType", "data_type"⟩
def transformationTypeField : FieldName := ⟨"transformationType", "transformation_type"⟩
def sourceFieldField : FieldName := ⟨"sourceField", "source_field"⟩
def valueField : FieldName := ⟨"value", "value"⟩
def defaultValueField : FieldName := ⟨"defaultValue", "default_value"⟩
def sourcesField : FieldName := ⟨"sources", "sources"⟩
def delimiterField : FieldName := ⟨"delimiter", "delimiter"⟩
def transformField : FieldName := ⟨"transform", "transform"⟩
def conditionsField : FieldName := ⟨"conditions", "conditions"⟩
def padField : FieldName := ⟨"pad", "pad"⟩
def padCharField : FieldName := ⟨"padChar", "pad_char"⟩
def transformationConfigField : FieldName := ⟨"transformationConfig", "transformation_config"⟩

/-- The fields of a mapping. -/
def fields : List FieldName :=
  [targetFieldNameField, targetPositionField, lengthField, dataTypeField, transformationTypeField,
   sourceFieldField, valueField, defaultValueField, sourcesField, delimiterField, transformField,
   conditionsField, padField, padCharField, transformationConfigField]

/-- The settings that may be lifted from the map of settings, under their names there. -/
def liftedFields : List FieldName :=
  [valueField, defaultValueField, sourcesField, delimiterField, transformField, conditionsField,
   padField, padCharField, sourceFieldField]

/-- A mapping without anything in it. -/
def blank : MappingDraft :=
  ⟨none, none, none, none, none, none, none, none, [], none, none, [], none, none⟩

/-- The map of settings, when it is one. -/
def settings? (entries : Entries) : Option Entries :=
  match transformationConfigField.find? entries with
  | some (_, v) =>
    match v.opened with
    | .map settings => some settings
    | _ => none
  | none => none

/-- Copies one setting onto the mapping under its snake-case name, unless the mapping gives it. -/
def liftOne (settings entries : Entries) (field : FieldName) : Entries :=
  match settings.get? field.camel with
  | none => entries
  | some v =>
    if (entries.getD field.camel).isNull && (entries.getD field.snake).isNull then
      entries.put field.snake v
    else entries

/-- The entries of a mapping with its settings lifted. -/
def lift (entries : Entries) : Entries :=
  match settings? entries with
  | some settings => liftedFields.foldl (liftOne settings) entries
  | none => entries

/-- Checks that the settings are a map with text keys. -/
def readSettings (v : Value) : Checked Unit :=
  match v.opened with
  | .map entries =>
    .map (fun _ => ()) (Checked.items (fun entry : Value × Value => readText entry.1) entries)
  | _ => .fail .notMap

/-- Reads the entries of a mapping whose settings have been lifted. -/
def readLifted (entries : Entries) : Checked MappingDraft :=
  (fun name position length dataType kind source value default' sources delimiter transform conditions
      pad padChar (_ : Unit) =>
    MappingDraft.mk name position length dataType kind source value default' sources delimiter
      transform conditions pad padChar)
    <$> targetFieldNameField.read entries none (orNull readText)
    <*> targetPositionField.read entries none (orNull readInteger)
    <*> lengthField.read entries none (orNull readInteger)
    <*> dataTypeField.read entries none (orNull readText)
    <*> transformationTypeField.read entries none (orNull readText)
    <*> sourceFieldField.read entries none (orNull readText)
    <*> valueField.read entries none (orNull readWritten)
    <*> defaultValueField.read entries none (orNull readWritten)
    <*> sourcesField.read entries [] (fun v =>
      match readList (nullAsEmpty v) with
      | .value items => Checked.items SourceDraft.read items
      | .faults found => .faults found)
    <*> delimiterField.read entries none (orNull readWritten)
    <*> transformField.read entries none (orNull readText)
    <*> conditionsField.read entries [] (fun v =>
      match readList (nullAsEmpty v) with
      | .value items => Checked.items ConditionDraft.read items
      | .faults found => .faults found)
    <*> padField.read entries none (orNull readText)
    <*> padCharField.read entries none (orNull readText)
    <*> transformationConfigField.read entries () readSettings

/-- Reads a mapping. -/
def read (v : Value) : Checked MappingDraft :=
  match v.opened with
  | .map entries => readLifted (lift entries)
  | _ => .fail (.notModel model)

/-- The names of the composite sources, in order. -/
def sourceNames (draft : MappingDraft) : List Text := draft.sources.map SourceDraft.text

end MappingDraft

/-! ## Whole definitions -/

structure ConfigDraft where
  sourceSystem : Option Text
  jobName : Option Text
  transactionType : Text
  mappings : List MappingDraft
  version : Int
  lastModified : Option Text
  deriving Repr

namespace ConfigDraft

def model : Text := "FieldMappingConfigSchema"

/-- The transaction type of a definition that names none. -/
def defaultTransactionType : Text := "default"

def sourceSystemField : FieldName := ⟨"sourceSystem", "source_system"⟩
def jobNameField : FieldName := ⟨"jobName", "job_name"⟩
def transactionTypeField : FieldName := ⟨"transactionType", "transaction_type"⟩
def mappingsField : FieldName := ⟨"fieldMappings", "field_mappings"⟩
def versionField : FieldName := ⟨"version", "version"⟩
def lastModifiedField : FieldName := ⟨"lastModified", "last_modified"⟩

def fields : List FieldName :=
  [sourceSystemField, jobNameField, transactionTypeField, mappingsField, versionField,
   lastModifiedField]

/-- A definition without anything in it. -/
def blank : ConfigDraft := ⟨none, none, defaultTransactionType, [], 1, none⟩

/-- Reads a transaction type; null and blank text mean the default one. -/
def readTransactionType : Value → Checked Text
  | .null => .value defaultTransactionType
  | .text t => .value (if Text.isBlank t then defaultTransactionType else t)
  | v => readText v

/-- Text, or anything else in its written form, times in the ISO form. -/
def readTimestamp : Value → Checked Text
  | .moment m => .value (m.text 'T')
  | v => readWritten v

/-- Reads a definition. -/
def read (v : Value) : Checked ConfigDraft :=
  match v.opened with
  | .map entries =>
    ConfigDraft.mk
      <$> sourceSystemField.read entries none (orNull readText)
      <*> jobNameField.read entries none (orNull readText)
      <*> transactionTypeField.read entries defaultTransactionType readTransactionType
      <*> mappingsField.read entries [] (fun v =>
        match readList (nullAsEmpty v) with
        | .value items => Checked.items MappingDraft.read items
        | .faults found => .faults found)
      <*> versionField.read entries 1 readInteger
      <*> lastModifiedField.read entries none (orNull readTimestamp)
  | _ => .fail (.notModel model)

end ConfigDraft
end FixedExtract.Definition
