import FixedExtract.Definition.Draft
import FixedExtract.Failure
import FixedExtract.Json.Reader
import FixedExtract.Rule.Basic
import FixedExtract.Yaml.Reader
/-!
# Loading rules

Rules are loaded from rows, and the first row that is no rule stops the loading. Rows may come as the text of
a list, or of a map that has the list under a key of its own.
-/

namespace FixedExtract

/-! ## Rule rows

A row is a rule as a table of rules holds it. Like a draft of a definition it is checked for types alone, but
it must name the rule and its kind.
-/

open Definition (FieldName Checked orNull readText readWritten readInteger readFlag)

structure RuleRow where
  ruleId : Text
  ruleType : Text
  fieldName : Option Text
  executionOrder : Int
  severity : Option Text
  enabled : Bool
  dataType : Option Text
  minLength : Option Int
  maxLength : Option Int
  pattern : Option Text
  validationExpression : Option Text
  errorMessage : Option Text
  requiredField : Bool
  precision : Option Int
  scale : Option Int
  referenceTable : Option Text
  referenceColumn : Option Text
  deriving DecidableEq, Repr

namespace RuleRow

def model : Text := "ValidationRuleSchema"

def ruleIdField : FieldName := ⟨"ruleId", "rule_id"⟩
def ruleTypeField : FieldName := ⟨"ruleType", "rule_type"⟩
def fieldNameField : FieldName := ⟨"fieldName", "field_name"⟩
def executionOrderField : FieldName := ⟨"executionOrder", "execution_order"⟩
def severityField : FieldName := ⟨"severity", "severity"⟩
def enabledField : FieldName := ⟨"enabled", "enabled"⟩
def dataTypeField : FieldName := ⟨"dataType", "data_type"⟩
def minLengthField : FieldName := ⟨"minLength", "min_length"⟩
def maxLengthField : FieldName := ⟨"maxLength", "max_length"⟩
def patternField : FieldName := ⟨"pattern", "pattern"⟩
def validationExpressionField : FieldName := ⟨"validationExpression", "validation_expression"⟩
def errorMessageField : FieldName := ⟨"errorMessage", "error_message"⟩
def requiredFieldField : FieldName := ⟨"requiredField", "required_field"⟩
def precisionField : FieldName := ⟨"precision", "precision"⟩
def scaleField : FieldName := ⟨"scale", "scale"⟩
def referenceTableField : FieldName := ⟨"referenceTable", "reference_table"⟩
def referenceColumnField : FieldName := ⟨"referenceColumn", "reference_column"⟩

/-- Reads a row. The identifier is taken in its written form. -/
def read (v : Value) : Checked RuleRow :=
  match v.opened with
  | .map entries =>
    RuleRow.mk
      <$> ruleIdField.require entries readWritten
      <*> ruleTypeField.require entries readText
      <*> fieldNameField.read entries none (orNull readText)
      <*> executionOrderField.read entries 1 readInteger
      <*> severityField.read entries none (orNull readText)
      <*> enabledField.read entries true readFlag
      <*> dataTypeField.read entries none (orNull readText)
      <*> minLengthField.read entries none (orNull readInteger)
      <*> maxLengthField.read entries none (orNull readInteger)
      <*> patternField.read entries none (orNull readText)
      <*> validationExpressionField.read entries none (orNull readText)
      <*> errorMessageField.read entries none (orNull readText)
      <*> requiredFieldField.read entries true readFlag
      <*> precisionField.read entries none (orNull readInteger)
      <*> scaleField.read entries none (orNull readInteger)
      <*> referenceTableField.read entries none (orNull readText)
      <*> referenceColumnField.read entries none (orNull readText)
  | _ => .fail (.notModel model)

end RuleRow
end FixedExtract

namespace FixedExtract

/-! ## Rules of rows -/

open Definition (TypeFault)

/-- The rule of a row. -/
def RuleRow.toRule (row : RuleRow) : Except UnknownRuleWord Rule := do
  let kind ← readRuleKind (.text row.ruleType)
  let severity ← readSeverity row.severity
  return {
    id := row.ruleId
    kind := kind
    field := row.fieldName
    order := row.executionOrder
    severity := severity
    enabled := row.enabled
    dataType := row.dataType
    minLength := row.minLength
    maxLength := row.maxLength
    pattern := row.pattern
    range := row.validationExpression
    message := row.errorMessage
    required := row.requiredField
    precision := row.precision
    scale := row.scale
    referenceTable := row.referenceTable
    referenceColumn := row.referenceColumn }

namespace Rule

/-- A row as it is handed in: read already, or as a value. -/
inductive Submission where
  | row (row : RuleRow)
  | value (v : Value)
  deriving Repr

/-- Why a row is no rule. -/
inductive RowFault where
  | notMap
  | types (id : Value) (found : List TypeFault)
  | word (id : Text) (fault : UnknownRuleWord)
  deriving Repr

/-- The identifier that a row gives, before anything is known of its type. -/
def writtenId (entries : Entries) : Value :=
  match RuleRow.ruleIdField.find? entries with
  | some (_, v) => v
  | none => .null

/-- The rule of a row that has been read. -/
def ofRow (row : RuleRow) : Except RowFault Rule := row.toRule.mapError (.word row.ruleId)

/-- The rule of a row. -/
def load : Submission → Except RowFault Rule
  | .row r => ofRow r
  | .value v =>
    match v.opened with
    | .map entries =>
      match RuleRow.read (.map entries) with
      | .value row => ofRow row
      | .faults found => .error (.types (writtenId entries) found)
    | _ => .error .notMap

/-- The rules of rows. -/
def loadAll (rows : List Submission) : Except RowFault (List Rule) := rows.mapM load

/-! ### Rules as text -/

/-- The forms that rules are written in. -/
inductive Format where
  | json
  | yaml
  deriving DecidableEq, Repr

/-- The form that a name stands for; every name but one means the second form. -/
def Format.ofName (name : Text) : Format := if name == "json" then .json else .yaml

/-- Why a text holds no rules. -/
inductive TextFault where
  | json (fault : Json.Fault)
  | yaml (fault : Yaml.Fault)
  | notRows
  | row (fault : RowFault)
  deriving Repr

/-- The value that a text holds. -/
def readValue (format : Format) (text : Text) : Except TextFault Value :=
  match format with
  | .json => (Json.read text).mapError .json
  | .yaml => (Yaml.read text).mapError .yaml

/-- The rows in a value: the value itself, or what it has as its rules. -/
def rowsOf (v : Value) : Option (List Value) :=
  match v.opened with
  | .list rows => some rows
  | .map entries =>
    match (Entries.get? "rules" entries).map Value.opened with
    | none => some []
    | some (.list rows) => some rows
    | some _ => none
  | _ => none

/-- Loads the rules that a text holds. -/
def readText (format : Format) (text : Text) : Except TextFault (List Rule) :=
  match readValue format text with
  | .error fault => .error fault
  | .ok value =>
    match rowsOf value with
    | none => .error .notRows
    | some rows => (loadAll (rows.map .value)).mapError .row

/-! ### Failures -/

/-- Does a value count as nothing: null, false, zero, or empty? -/
def isNothing : Value → Bool
  | .null => true
  | .bool b => !b
  | .int n => n = 0
  | .float x => x.toInt? == some 0
  | .text t => t.isEmpty
  | .bytes bs => bs.isEmpty
  | .list items => items.isEmpty
  | .tuple items => items.isEmpty
  | .set items => items.isEmpty
  | .map entries => entries.isEmpty
  | _ => false

/-- Why there is no failure to report: a row is not even a map, the identifier of a row that is no rule cannot
be written, a scalar has no value, or a number has too many digits. -/
inductive Unreported where
  | row
  | identifier
  | scalar (fault : Yaml.Fault)
  | longNumber (digits : Nat)
  deriving DecidableEq, Repr

/-- The failure for a row that is no rule. -/
def RowFault.failure? : RowFault → Except Unreported Failure
  | .notMap => .error .row
  | .types id found =>
    if id.isWritable then
      .ok (.make .ruleDefinition
        ("Invalid validation rule " ++ (if isNothing id then "<unknown>".toList else id.display))
        [(.text "errors", .list (found.map fun fault => .text fault.problem.message)),
         (.text "rule_id", id)])
    else .error .identifier
  | .word id fault =>
    .ok (.make .ruleDefinition ("Invalid validation rule " ++ id ++ ": " ++ fault.message)
      [(.text "rule_id", .text id)])

/-- The form that a text was read in, as a detail of a failure. -/
def formatDetail (format : Text) : Value × Value := (.text "format", .text format)

/-- The failure for a text that cannot be read at all. -/
def unreadable (format : Text) : Failure :=
  .make .configLoad "Failed to parse rule definitions: " [formatDetail format]

/-- The failure for a text that holds no rules. `format` is the name of the form. -/
def TextFault.failure? (format : Text) : TextFault → Except Unreported Failure
  | .json ⟨.tooManyDigits digits, _⟩ => .error (.longNumber digits)
  | .json _ => .ok (unreadable format)
  | .yaml .malformed => .ok (unreadable format)
  | .yaml fault => .error (.scalar fault)
  | .notRows =>
    .ok (.make .configLoad "Rule definitions must be a list of rows" [formatDetail format])
  | .row fault => fault.failure?

end Rule
end FixedExtract
