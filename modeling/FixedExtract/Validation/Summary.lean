import FixedExtract.Double
import FixedExtract.Validation.Result
/-!
# Summaries

A summary collects the results of the fields of a record, or of many records, and counts them. Summaries of
parts are merged into one of the whole: counts are added, and results of the same field are joined.
-/

namespace FixedExtract

/-- The results of fields, in the order in which the fields came. -/
abbrev FieldResults := List (Text × List FieldResult)

namespace FieldResults

/-- Adds results to those of a field, which comes last when it is new. -/
def add (field : Text) (results : List FieldResult) : FieldResults → FieldResults
  | [] => [(field, results)]
  | (name, before) :: rest =>
    if name = field then (name, before ++ results) :: rest else (name, before) :: add field results rest

/-- The results of two lists, those of the first one in front. -/
def merge (a b : FieldResults) : FieldResults :=
  b.foldl (fun merged entry => add entry.1 entry.2 merged) a

end FieldResults

/-- The moment of validation is counted in microseconds from the start of 1970, in universal time. -/
structure Summary where
  totalFields : Int
  totalErrors : Nat
  totalWarnings : Nat
  errorFieldCount : Nat
  thresholdExceeded : Bool
  fieldResults : FieldResults
  skippedFields : List Text
  batchId : Option Text
  validatedAt : Int
  deriving DecidableEq, Repr

namespace Summary

/-- A summary without results. -/
def blank (totalFields : Int) (batchId : Option Text) (validatedAt : Int) : Summary :=
  ⟨totalFields, 0, 0, 0, false, [], [], batchId, validatedAt⟩

/-- Adds the results of a field and counts them. -/
def add (s : Summary) (field : Text) (results : List FieldResult) : Summary :=
  let errors := results.countP fun r => !r.valid
  { s with
    fieldResults := FieldResults.add field results s.fieldResults
    totalErrors := s.totalErrors + errors
    totalWarnings := s.totalWarnings + results.countP FieldResult.isCaution
    errorFieldCount := s.errorFieldCount + (if errors = 0 then 0 else 1) }

/-! ## What a summary says -/

/-- All results, field by field. -/
def results (s : Summary) : List FieldResult := s.fieldResults.flatMap Prod.snd

def allErrors (s : Summary) : List FieldResult := s.results.filter fun r => !r.valid

def allWarnings (s : Summary) : List FieldResult := s.results.filter FieldResult.isCaution

def fieldsWithErrors (s : Summary) : List Text :=
  (s.fieldResults.filter fun entry => entry.2.any fun r => !r.valid).map Prod.fst

/-- The fields that have a result with a warning, be it valid or not. -/
def fieldsWithWarnings (s : Summary) : List Text :=
  (s.fieldResults.filter fun entry => entry.2.any FieldResult.hasWarning).map Prod.fst

/-- The results of one field. -/
def resultsOf (s : Summary) (field : Text) : List FieldResult :=
  (s.fieldResults.lookup field).getD []

def validFields (s : Summary) : Int := s.totalFields - s.errorFieldCount

def isValid (s : Summary) : Bool := s.totalErrors = 0 && !s.thresholdExceeded

/-- A number of fields as a percentage of all; `otherwise` when there are none. -/
def rate (otherwise : Int) (n : Int) (s : Summary) : Double :=
  if s.totalFields = 0 then Double.ofInt otherwise
  else
    let quotient := Double.ofQuotient n s.totalFields.natAbs
    (if s.totalFields < 0 then quotient.neg else quotient).mul (Double.ofInt 100)

def successRate (s : Summary) : Double := s.rate 100 s.validFields

def errorRate (s : Summary) : Double := s.rate 0 s.totalErrors

def warningRate (s : Summary) : Double := s.rate 0 s.totalWarnings

/-! ## Merging -/

/-- The first batch identifier that is not empty, or else the second. -/
def mergeBatchId (a b : Option Text) : Option Text :=
  match a with
  | some id => if id.isEmpty then b else some id
  | none => b

/-- The summary of two parts. -/
def merge (a b : Summary) : Summary where
  totalFields := a.totalFields + b.totalFields
  totalErrors := a.totalErrors + b.totalErrors
  totalWarnings := a.totalWarnings + b.totalWarnings
  errorFieldCount := a.errorFieldCount + b.errorFieldCount
  thresholdExceeded := a.thresholdExceeded || b.thresholdExceeded
  fieldResults := a.fieldResults.merge b.fieldResults
  skippedFields := a.skippedFields ++ b.skippedFields
  batchId := mergeBatchId a.batchId b.batchId
  validatedAt := max a.validatedAt b.validatedAt

/-- The summary of all parts, starting from one made at a moment. -/
def mergeAll (validatedAt : Int) (parts : List Summary) : Summary :=
  parts.foldl merge (blank 0 none validatedAt)

end Summary
end FixedExtract
