import FixedExtract.Failure
import FixedExtract.Validation.Summary
/-!
# Reports of summaries

A summary as text for people, as a map for programs, and as the failure that stops a run.
-/

namespace FixedExtract.Summary

/-- A text, or the word for nothing. -/
def orNone : Option Text → Text
  | some text => text
  | none => "None"

/-- A percentage with two decimal places. -/
def percent (rate : Double) : Text := rate.fixedText 2 ++ ['%']

/-- A part of a report, with an empty line and a title in front, unless it has no lines. -/
def section? (title : Text) (lines : List Text) : List Text :=
  if lines.isEmpty then [] else [] :: title :: lines

/-- The report of a summary; every line ends with a line feed. -/
def reportText (s : Summary) : Text :=
  let lines : List Text :=
    ["=== VALIDATION SUMMARY ===".toList,
     "Validation Time: " ++ (Moment.ofEpoch s.validatedAt).text 'T',
     "Total Fields: " ++ Text.ofInt s.totalFields,
     "Valid Fields: " ++ Text.ofInt s.validFields,
     "Errors: " ++ Text.ofNat s.totalErrors,
     "Warnings: " ++ Text.ofNat s.totalWarnings,
     "Success Rate: " ++ percent s.successRate,
     "Error Rate: " ++ percent s.errorRate,
     "Threshold Exceeded: " ++ (if s.thresholdExceeded then "YES".toList else "NO".toList),
     "Overall Status: " ++ (if s.isValid then "PASSED".toList else "FAILED".toList)]
  let errors := s.allErrors.map fun r => "- " ++ r.field ++ ": " ++ orNone r.error
  let warnings := s.allWarnings.map fun r => "- " ++ r.field ++ ": " ++ orNone r.warning
  (lines ++ section? "=== ERRORS ===" errors ++ section? "=== WARNINGS ===" warnings ++
    ["========================".toList]).flatMap fun line => line ++ ['\n']

/-- A percentage rounded to two decimal places. -/
def rounded (rate : Double) : Value := .float (rate.roundPlaces 2)

/-- The summary as a map. -/
def report (s : Summary) : Entries :=
  [(.text "total_fields", .int s.totalFields), (.text "total_errors", .int s.totalErrors),
   (.text "total_warnings", .int s.totalWarnings), (.text "valid_fields", .int s.validFields),
   (.text "threshold_exceeded", .bool s.thresholdExceeded),
   (.text "success_rate", rounded s.successRate), (.text "error_rate", rounded s.errorRate),
   (.text "warning_rate", rounded s.warningRate),
   (.text "skipped_fields", .list (s.skippedFields.map .text)),
   (.text "field_results", .map (s.fieldResults.map fun (name, results) =>
     (.text name, .list (results.map FieldResult.report))))]

/-- An error as a detail of a failure. -/
def errorDetail (r : FieldResult) : Value :=
  .map [(.text "field", .text r.field), (.text "rule_id", FieldResult.orNull (r.rule.map RuleTag.id)),
    (.text "message", FieldResult.orNull r.error)]

/-- The failure that lists all errors, when there are any. -/
def failure? (s : Summary) : Option Failure :=
  let errors := s.allErrors
  if errors.isEmpty then none
  else
    some {
      cls := .fieldValidation
      message := Text.ofNat errors.length ++ " validation error(s) in " ++
        Text.ofNat s.fieldsWithErrors.length ++ " field(s)"
      code := FailureClass.fieldValidation.code
      details := [(.text "errors", .list (errors.map errorDetail)),
        (.text "threshold_exceeded", .bool s.thresholdExceeded)]
      recordId := s.batchId }

end FixedExtract.Summary
