import FixedExtract.Calendar.Timestamp
import FixedExtract.Definition.Draft
import FixedExtract.Definition.Shape
import FixedExtract.Failure
import FixedExtract.Layout.Basic
/-!
# Loading definitions

Loading checks a definition and makes a layout of it. A definition that passes the check has a layout; one
that does not is refused with everything that is wrong with it.
-/

namespace FixedExtract.Definition

/-! ## From drafts to layouts

A draft becomes a layout when every part of it is acceptable. Parts that may be left out get their usual
values; the first part that is not acceptable stops the conversion.
-/

/-- The text, unless it is missing or empty. -/
def textOr (otherwise : Text) : Option Text → Text
  | none => otherwise
  | some text => if text.isEmpty then otherwise else text

/-- The usual data type of a field. -/
def defaultDataType : Text := "STRING"

namespace ConditionDraft

def toElseIf (draft : ConditionDraft) : Layout.ElseIf :=
  ⟨draft.ifExpr.getD [], draft.value.getD []⟩

def toCondition (draft : ConditionDraft) : Except Layout.Fault Layout.Condition :=
  Layout.Condition.make (draft.ifExpr.getD []) (draft.value.getD []) (draft.elseIfs.map toElseIf)
    draft.elseExpr

end ConditionDraft

namespace MappingDraft

def toTransformation (draft : MappingDraft) : Except Layout.Fault Layout.Transformation := do
  match ← Layout.readKind (draft.transformationType.getD []) with
  | .source => Layout.Transformation.makeSource (draft.sourceField.getD [])
  | .constant => return .constant draft.value
  | .composite =>
    let operation ← Layout.readOperation draft.transform
    Layout.Transformation.makeComposite draft.sourceNames (draft.delimiter.getD []) operation
  | .conditional =>
    let conditions ← draft.conditions.mapM ConditionDraft.toCondition
    Layout.Transformation.makeConditional conditions

def toMapping (draft : MappingDraft) : Except Layout.Fault Layout.Mapping := do
  let transformation ← draft.toTransformation
  let pad ← Layout.readPadSide draft.pad
  Layout.Mapping.make (draft.targetFieldName.getD []) (draft.targetPosition.getD 0)
    (draft.length.getD 0) transformation pad (textOr [' '] draft.padChar)
    (textOr defaultDataType draft.dataType) draft.defaultValue

end MappingDraft

namespace ConfigDraft

/-- The time of the last change; a text that is no timestamp gives none. -/
def modified? (draft : ConfigDraft) : Option Moment := draft.lastModified.bind Timestamp.read?

def toConfig (draft : ConfigDraft) : Except Layout.Fault Layout.Config := do
  let mappings ← draft.mappings.mapM MappingDraft.toMapping
  return ⟨draft.sourceSystem.getD [], draft.jobName.getD [], draft.transactionType, mappings,
    draft.version, draft.modified?⟩

end ConfigDraft

/-! ## Checked definitions -/

/-- Why a definition cannot be loaded. -/
inductive LoadFault where
  | shape (report : ShapeReport)
  | types (found : List TypeFault)
  | layout (fault : Layout.Fault)
  deriving Repr

/-- The messages of what was found, as details of a failure. -/
def ShapeReport.details (report : ShapeReport) : Entries :=
  [(.text "errors", .list (report.errors.map fun fault => .text fault.message)),
   (.text "warnings", .list (report.warnings.map fun warning => .text warning.message))]

/-- The failure for a definition that did not pass the check. -/
def ShapeReport.failure (report : ShapeReport) : Failure :=
  .make .configShape
    ("Mapping definition has " ++ Text.ofNat report.errors.length ++ " error(s)") report.details

/-- The draft of a definition. -/
def Submission.toDraft : Submission → Except (List TypeFault) ConfigDraft
  | .draft d => .ok d
  | .entries es => (ConfigDraft.read (.map es)).toExcept

/-- Makes a layout of a definition without checking it first. -/
def convert (submission : Submission) : Except LoadFault Layout.Config :=
  match submission.toDraft with
  | .error found => .error (.types found)
  | .ok draft =>
    match draft.toConfig with
    | .error fault => .error (.layout fault)
    | .ok config => .ok config

/-- Checks a definition and makes a layout of it. -/
def load (maximum : Int) (submission : Submission) : Except LoadFault Layout.Config :=
  let report := checkShape maximum submission
  if report.valid then convert submission else .error (.shape report)

end FixedExtract.Definition
