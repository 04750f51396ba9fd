import FixedExtract.Validation.Check
import FixedExtract.Validation.Summary
/-!
# Validating records

The rules of a field are checked in execution order, and a critical rule that fails ends the checks of its
field. The fields of a record are checked in order, then the fields that have rules but no place in the record,
until there are as many errors as the threshold allows. Patterns that are read on the way are kept for what
follows.
-/

namespace FixedExtract

namespace PatternCache

/-- Checks a value against rules in order, up to a critical one that fails. -/
def checkInOrder (lookup : Option ReferenceLookup) (cache : PatternCache) (field : Text)
    (value : Option Text) : List Rule → List FieldResult × PatternCache
  | [] => ([], cache)
  | rule :: rest =>
    let (result, cache) := cache.check lookup rule field value
    if !result.valid && rule.isCritical then ([result], cache)
    else
      let (results, cache) := checkInOrder lookup cache field value rest
      (result :: results, cache)

/-- Checks a value against the enabled rules among some. Without any the value is valid. -/
def checkField (lookup : Option ReferenceLookup) (cache : PatternCache) (field : Text)
    (value : Option Text) (rules : List Rule) : List FieldResult × PatternCache :=
  match Rule.sort (rules.filter Rule.enabled) with
  | [] => ([.success field value none], cache)
  | active => cache.checkInOrder lookup field value active

end PatternCache

/-- The values of the fields of a record to validate. -/
abbrev FieldValues := List (Text × Option Text)

/-- How a run of validations is made. A threshold of zero sets no limit. -/
structure ValidationSettings where
  threshold : Int
  batchId : Option Text
  validatedAt : Int
  deriving DecidableEq, Repr

namespace PatternCache

/-- Is the number of errors as high as the threshold allows? -/
def reaches (threshold : Int) (s : Summary) : Bool := 0 < threshold && threshold ≤ s.totalErrors

/-- Checks fields in order and adds their results to a summary, until the threshold is reached. -/
def checkFields (lookup : Option ReferenceLookup) (threshold : Int) (record : FieldValues)
    (rules : List (Text × List Rule)) (cache : PatternCache) (s : Summary) :
    (names : List Text) → Summary × PatternCache
  | [] => (s, cache)
  | name :: rest =>
    let (results, cache) :=
      cache.checkField lookup name ((record.lookup name).join) ((rules.lookup name).getD [])
    let s := s.add name results
    if reaches threshold s then ({ s with thresholdExceeded := true, skippedFields := rest }, cache)
    else checkFields lookup threshold record rules cache s rest

/-- The fields to check: those of the record, and those that have rules besides. -/
def fieldNames (record : FieldValues) (rules : List (Text × List Rule)) : List Text :=
  let names := record.map Prod.fst
  names ++ (rules.map Prod.fst).filter fun name => !names.elem name

/-- Validates a record. -/
def checkRecord (lookup : Option ReferenceLookup) (settings : ValidationSettings)
    (rules : List (Text × List Rule)) (cache : PatternCache) (record : FieldValues) :
    Summary × PatternCache :=
  let names := fieldNames record rules
  cache.checkFields lookup settings.threshold record rules
    (.blank names.length settings.batchId settings.validatedAt) names

/-- Validates records one after the other. -/
def checkEach (lookup : Option ReferenceLookup) (settings : ValidationSettings)
    (rules : List (Text × List Rule)) (cache : PatternCache) :
    List FieldValues → List Summary × PatternCache
  | [] => ([], cache)
  | record :: rest =>
    let (s, cache) := cache.checkRecord lookup settings rules record
    let (others, cache) := checkEach lookup settings rules cache rest
    (s :: others, cache)

/-- Validates records with all patterns read in advance, and merges their summaries. -/
def checkRecords (lookup : Option ReferenceLookup) (settings : ValidationSettings)
    (rules : List (Text × List Rule)) (cache : PatternCache) (records : List FieldValues) :
    Except Regex.Refusal Summary × PatternCache :=
  match cache.prepare (rules.flatMap Prod.snd) with
  | (some refusal, cache) => (.error refusal, cache)
  | (none, cache) =>
    let (parts, cache) := cache.checkEach lookup settings rules records
    (.ok { Summary.mergeAll settings.validatedAt parts with batchId := settings.batchId }, cache)

end PatternCache
end FixedExtract
