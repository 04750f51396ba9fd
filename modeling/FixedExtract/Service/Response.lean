import FixedExtract.Definition.Loading
import FixedExtract.Layout.Rendering
import FixedExtract.Service.Body
import FixedExtract.Validation.Report
/-!
# Responses

What the service answers: a status and a document. A failure of the library is reported as it is, with a status
that its class decides.
-/

namespace FixedExtract.Service

open Definition (Problem ShapeReport Step)

structure Response where
  status : Nat
  body : Value
  deriving Repr

/-- An entry of a document. -/
def entry (key : Text) (v : Value) : Value × Value := (.text key, v)

def textList (texts : List Text) : Value := .list (texts.map .text)

namespace Response

def ok (entries : Entries) : Response := ⟨200, .map entries⟩

/-- A response that says what is wrong in one sentence. -/
def refusal (status : Nat) (detail : Text) : Response := ⟨status, .map [entry "detail" (.text detail)]⟩

/-- The status for a class of failures. -/
def statusOf : FailureClass → Nat
  | .configShape => 422
  | .configCompile => 400
  | .configLoad => 400
  | .ruleDefinition => 400
  | _ => 500

/-- The response to a failure. -/
def failure (f : Failure) : Response := ⟨statusOf f.cls, .map [entry "error" f.report]⟩

/-- A step of the way to a fault. -/
def stepValue : Step → Value
  | .key name => .text name
  | .index n => .int n

/-- A fault as a detail: where it is in the request, what it is, and the value that has it. -/
def detail (place : List Step) (problem : Problem) (input : Value) : Value :=
  .map [entry "loc" (.list (place.map stepValue)), entry "type" (.text problem.code),
    entry "msg" (.text problem.message), entry "input" input]

/-- The innermost value on a path into a document. For an entry that is missing it is the map without it. -/
def valueAt : List Step → Value → Value
  | .key name :: rest, .map entries =>
    match Entries.get? name entries with
    | some v => valueAt rest v
    | none => .map entries
  | .index n :: rest, .list items =>
    match items[n]? with
    | some v => valueAt rest v
    | none => .list items
  | _, v => v

mutual

/-- A value without the entries that are not shown: those whose names start with `_sa`. -/
def shown : Value → Value
  | .map entries => .map (shownEntries entries)
  | .list items => .list (shownItems items)
  | v => v

def shownItems : List Value → List Value
  | [] => []
  | item :: rest => shown item :: shownItems rest

def shownEntries : List (Value × Value) → List (Value × Value)
  | [] => []
  | (.text name, v) :: rest =>
    if ("_sa" : Text).isPrefixOf name then shownEntries rest
    else (.text name, shown v) :: shownEntries rest
  | (key, v) :: rest => (key, shown v) :: shownEntries rest

end

/-- The details of a body that cannot be used, unless no more can be said than that. -/
def details? : BodyFault → Option (List Value)
  | .absent => some [detail [.key "body"] .missing .null]
  | .notJson position => some [detail [.key "body", .index position] .unreadableJson (.map [])]
  | .unreadable => none
  | .faults document found => some (found.map fun fault =>
      detail (.key "body" :: fault.path) fault.problem (shown (valueAt fault.path document)))

/-- The response to a body that cannot be used. -/
def badBody (fault : BodyFault) : Response :=
  match details? fault with
  | some details => ⟨422, .map [entry "detail" (.list details)]⟩
  | none => refusal 400 "There was an error parsing the body"

/-- The report on the shape of a definition. -/
def shape (report : ShapeReport) : Response :=
  ok [entry "valid" (.bool report.valid),
    entry "errors" (textList (report.errors.map Definition.ShapeFault.message)),
    entry "warnings" (textList (report.warnings.map Definition.ShapeWarning.message)),
    entry "duplicate_positions" (.list (report.duplicatePositions.map .int)),
    entry "duplicate_field_names" (textList report.duplicateNames),
    entry "missing_required_fields" (textList report.missing)]

/-- Compiled text and the number of its documents. -/
def compiled (content : Text) (documents : Nat) : Response :=
  ok [entry "content" (.text content), entry "documents" (.int documents)]

def previewLine (line : Layout.RenderedLine) : Value :=
  .map [entry "record_id" (.text (Text.ofNat line.number)), entry "text" (.text line.text),
    entry "warnings" (textList (line.warnings.map Layout.Warning.message))]

/-- Lines rendered by a layout. -/
def preview (config : Layout.Config) (lines : List Layout.RenderedLine) : Response :=
  ok [entry "lines" (.list (lines.map previewLine)),
    entry "preview" (.text (Layout.previewText lines)),
    entry "record_length" (.int config.recordLength),
    entry "warnings" (textList (lines.flatMap fun line => line.warnings.map Layout.Warning.message))]

/-- A result with every part of it, be it null. -/
def resultValue (r : FieldResult) : Value :=
  .map [entry "fieldName" (.text r.field), entry "fieldValue" (FieldResult.orNull r.value),
    entry "ruleId" (FieldResult.orNull (r.rule.map RuleTag.id)), entry "valid" (.bool r.valid),
    entry "errorMessage" (FieldResult.orNull r.error),
    entry "warningMessage" (FieldResult.orNull r.warning),
    entry "ruleType" (FieldResult.orNull (r.rule.map (RuleKind.name ∘ RuleTag.kind))),
    entry "severity" (FieldResult.orNull (r.rule.map (Severity.name ∘ RuleTag.severity)))]

/-- The summary of a validation. -/
def summary (s : Summary) : Response :=
  ok [entry "totalFields" (.int s.totalFields), entry "totalErrors" (.int s.totalErrors),
    entry "totalWarnings" (.int s.totalWarnings), entry "validFields" (.int s.validFields),
    entry "thresholdExceeded" (.bool s.thresholdExceeded),
    entry "successRate" (Summary.rounded s.successRate),
    entry "errorRate" (Summary.rounded s.errorRate),
    entry "warningRate" (Summary.rounded s.warningRate),
    entry "skippedFields" (textList s.skippedFields),
    entry "fieldResults" (.map (s.fieldResults.map fun (name, results) =>
      entry name (.list (results.map resultValue))))]

end Response
end FixedExtract.Service
