import FixedExtract.Definition.Loading
import FixedExtract.Definition.Shape
import FixedExtract.Layout.Basic
import FixedExtract.Text.Basic
import FixedExtract.Value.Display
import FixedExtract.Yaml.Document
import FixedExtract.Yaml.Writer
/-!
# Compiling definitions

A definition that passes the check is compiled to the text of its document. Several definitions of one
job, for different transaction types, make one text with a line of hyphens between their documents.
-/

namespace FixedExtract.Compiled

/-! ## Layouts as documents

The document of a layout: what it belongs to, and its fields in the order they are declared, each under a
key made of its name. What has its usual value and what is missing is left out.
-/

open Layout (Condition Config Mapping Transformation)
open Yaml (Document)

abbrev Fields := List (Text × Document)

/-- An entry with a document. -/
def field (key : Text) (document : Document) : Text × Document := (key, document)

/-- An entry with a text. -/
def entry (key text : Text) : Text × Document := (key, .text text)

/-- An entry for a text that may be missing. -/
def optional (key : Text) (text : Option Text) : Fields := text.toList.map (entry key)

def elseIfDocument (branch : Layout.ElseIf) : Document :=
  .map [entry "ifExpr" branch.condition, entry "then" branch.value]

/-- The entry for the else-if branches of a condition, if it has any. -/
def elseIfFields (c : Condition) : Fields :=
  if c.elseIfs.isEmpty then [] else [field "elseIfExprs" (.list (c.elseIfs.map elseIfDocument))]

def conditionDocument (c : Condition) : Document :=
  .map (entry "ifExpr" c.ifExpr.text :: entry "then" c.value :: elseIfFields c ++
    optional "elseExpr" c.elseExpr)

/-- What a transformation adds to its field. -/
def transformationFields : Transformation → Fields
  | .source field => [entry "sourceField" field.text]
  | .constant value => optional "value" value
  | .composite sources delimiter operation _ =>
    field "sources" (.list (sources.map fun source => .text source.text)) ::
      optional "delimiter" (if delimiter.isEmpty then none else some delimiter) ++
      optional "transform" (if operation = .concat then none else some operation.name)
  | .conditional conditions _ => [field "conditions" (.list (conditions.map conditionDocument))]

/-- The entries that fields of every kind have in front. -/
def placementFields (m : Mapping) : Fields :=
  entry "fieldName" m.name :: field "targetPosition" (.int m.position) :: field "length" (.int m.length) ::
    entry "pad" m.pad.name ::
    optional "padChar" (if m.padChar = ' ' then none else some [m.padChar]) ++
    [entry "dataType" m.dataType, entry "transformationType" m.transformation.kind.name]

def mappingDocument (m : Mapping) : Document :=
  .map (placementFields m ++ transformationFields m.transformation ++
    optional "defaultValue" m.defaultValue)

/-- Puts a document under a key, in place of one that is there. -/
def putField (fields : Fields) (key : Text) (document : Document) : Fields :=
  if fields.any (·.1 == key) then
    fields.map fun field => if field.1 == key then (key, document) else field
  else fields ++ [(key, document)]

/-- The fields of a layout under their keys. -/
def fieldDocuments (mappings : List Mapping) : Fields :=
  mappings.foldl
    (fun fields m => putField fields (Definition.fieldKey m.name) (mappingDocument m)) []

/-- The document of a layout. -/
def document (config : Config) : Document :=
  .map [entry "fileType" config.jobName, entry "sourceSystem" config.sourceSystem,
    entry "transactionType" config.transactionType,
    field "fields" (.map (fieldDocuments config.mappings))]

end FixedExtract.Compiled

namespace FixedExtract.Compiled

/-! ## Definitions -/

open Definition (LoadFault ShapeReport Submission)
open Layout (Config)

/-- The text of the document of a layout. -/
def text (config : Config) : Text := Yaml.write (document config)

/-- Compiles one definition. -/
def compile (maximum : Int) (submission : Submission) : Except LoadFault Text :=
  (Definition.load maximum submission).map text

/-! ### Several definitions -/

/-- Why definitions cannot be compiled together. -/
inductive Fault where
  | noDefinitions
  | shapes (reports : List (Text × ShapeReport))
  | load (fault : LoadFault)
  | severalJobs (jobs : List Text)
  | repeatedType (transactionType : Text)
  deriving Repr

namespace Fault

/-- The messages for everything that is wrong with some definitions, each with the definition's label. -/
def shapeMessages (reports : List (Text × ShapeReport)) : List Text :=
  reports.flatMap fun (label, report) =>
    report.errors.map fun fault => '[' :: label ++ "] " ++ fault.message

end Fault

/-- Does the value stand for nothing? -/
def isEmptyValue : Value → Bool
  | .null => true
  | .bool b => !b
  | .int n => n == 0
  | .float (.finite _ m _) => m == 0
  | .text t => t.isEmpty
  | .bytes bs => bs.isEmpty
  | .list items => items.isEmpty
  | .tuple items => items.isEmpty
  | .set items => items.isEmpty
  | .map entries => entries.isEmpty
  | _ => false

/-- What a definition is called in messages: its transaction type, whether or not that is a text. -/
def label : Submission → Text
  | .draft d => d.transactionType
  | .entries es =>
    let given := ((Definition.ConfigDraft.transactionTypeField.find? es).map Prod.snd).getD .null
    if isEmptyValue given then Definition.ConfigDraft.defaultTransactionType else given.display

/-- Loads definitions. The reports of all those that do not pass the check are collected. -/
def loadAll (maximum : Int) :
    List Submission → Except LoadFault (List Config × List (Text × ShapeReport))
  | [] => .ok ([], [])
  | submission :: rest =>
    match Definition.load maximum submission with
    | .ok config => do
      let (configs, reports) ← loadAll maximum rest
      return (config :: configs, reports)
    | .error (.shape report) => do
      let (configs, reports) ← loadAll maximum rest
      return (configs, (label submission, report) :: reports)
    | .error fault => .error fault

/-- The first element that occurred before. -/
def firstRepeated? [BEq α] (seen : List α) : List α → Option α
  | [] => none
  | a :: rest => if seen.elem a then some a else firstRepeated? (a :: seen) rest

/-- The line between two documents. -/
def separator : Text := "---\n"

/-- Puts layouts of one job together. -/
def combine (configs : List Config) : Except Fault Text :=
  let jobs := Text.sortedSet (configs.map Config.jobName)
  if jobs.length > 1 then .error (.severalJobs jobs)
  else
    match firstRepeated? [] (configs.map Config.transactionType) with
    | some transactionType => .error (.repeatedType transactionType)
    | none => .ok (Text.join separator (configs.map text))

/-- Compiles several definitions of one job. -/
def compileAll (maximum : Int) (submissions : List Submission) : Except Fault Text :=
  if submissions.isEmpty then .error .noDefinitions
  else
    match loadAll maximum submissions with
    | .error fault => .error (.load fault)
    | .ok (configs, []) => combine configs
    | .ok (_, reports) => .error (.shapes reports)

end FixedExtract.Compiled
