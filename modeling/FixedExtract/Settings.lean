import FixedExtract.Definition.Shape
import FixedExtract.Text.Integer
/-!
# Settings

What can be set from outside, by environment with texts. A variable that is not set leaves the usual value, and
a number is read the way integers are read anywhere.
-/

namespace FixedExtract

structure Settings where
  maxRecordLength : Int
  errorThreshold : Int
  validationWorkers : Int
  logLevel : Text
  docsEnabled : Bool
  deriving DecidableEq, Repr

namespace Settings

/-- The settings when nothing is set. -/
def usual : Settings := ⟨Definition.defaultMaxLength, 0, 1, "INFO", true⟩

/-- The text of a variable. -/
def textOf? (environment : List (Text × Text)) (name : Text) : Option Text := environment.lookup name

/-- Reads a number from a variable. -/
def number (environment : List (Text × Text)) (name : Text) (otherwise : Int) :
    Except Text.IntegerFault Int :=
  match textOf? environment name with
  | some text => Text.readInteger 10 text
  | none => .ok otherwise

/-- Reads settings from environment. There is always at least one worker. -/
def read (environment : List (Text × Text)) : Except Text.IntegerFault Settings := do
  let maxRecordLength ← number environment "EP_MAX_RECORD_LENGTH" usual.maxRecordLength
  let errorThreshold ← number environment "EP_ERROR_THRESHOLD" usual.errorThreshold
  let workers ← number environment "EP_VALIDATION_WORKERS" usual.validationWorkers
  let logLevel := (textOf? environment "EP_LOG_LEVEL").getD usual.logLevel
  let docs := (textOf? environment "EP_DOCS_ENABLED").getD "true"
  return {
    maxRecordLength := maxRecordLength
    errorThreshold := errorThreshold
    validationWorkers := max 1 workers
    logLevel := Text.upper logLevel
    docsEnabled := Text.lower docs == "true" }

end Settings
end FixedExtract
