import FixedExtract.Validation.Record
/-!
# Workers

Several workers may validate the records of a batch at the same time. They share one cache, and each of them goes
on by one check of a value against a rule at a time, so that between two checks of a record those of others may
take place. At most as many records are being validated as there are workers, and the summaries are taken in the
order of the records, whichever was done first.
-/

namespace FixedExtract

/-- How far the validation of a record has come. -/
inductive Progress where
  /-- The next of some fields is to be checked. -/
  | between (s : Summary) (names : List Text)
  /-- A field with some results is to be checked against further rules. -/
  | within (s : Summary) (name : Text) (results : List FieldResult) (pending : List Rule)
      (names : List Text)
  | done (s : Summary)
  deriving Repr

namespace Progress

/-- A validation before its first check. -/
def start (settings : ValidationSettings) (rules : List (Text × List Rule)) (record : FieldValues) :
    Progress :=
  let names := PatternCache.fieldNames record rules
  .between (.blank names.length settings.batchId settings.validatedAt) names

/-- Adds the results of a field to the summary. The other fields are skipped when the threshold is reached. -/
def close (threshold : Int) (s : Summary) (name : Text) (results : List FieldResult)
    (names : List Text) : Progress :=
  let s := s.add name results
  if PatternCache.reaches threshold s then
    .done { s with thresholdExceeded := true, skippedFields := names }
  else .between s names

/-- Goes on by one check, or to the next field. -/
def step (lookup : Option ReferenceLookup) (threshold : Int) (rules : List (Text × List Rule))
    (record : FieldValues) (cache : PatternCache) : Progress → Progress × PatternCache
  | .between s [] => (.done s, cache)
  | .between s (name :: names) =>
    match Rule.sort (((rules.lookup name).getD []).filter Rule.enabled) with
    | [] => (close threshold s name [.success name (record.lookup name).join none] names, cache)
    | active => (.within s name [] active names, cache)
  | .within s name results [] names => (close threshold s name results names, cache)
  | .within s name results (rule :: pending) names =>
    let (result, cache) := cache.check lookup rule name (record.lookup name).join
    if !result.valid && rule.isCritical then
      (close threshold s name (results ++ [result]) names, cache)
    else (.within s name (results ++ [result]) pending names, cache)
  | .done s => (.done s, cache)

/-- The summary of a validation that is done. -/
def summary? : Progress → Option Summary
  | .done s => some s
  | _ => none

end Progress

/-- A record of a batch, which waits for a worker or has got one. -/
inductive Job where
  | waiting (record : FieldValues)
  | started (record : FieldValues) (progress : Progress)
  deriving Repr

namespace Job

def summary? : Job → Option Summary
  | .waiting _ => none
  | .started _ progress => progress.summary?

/-- Does the job keep a worker busy? -/
def isBusy : Job → Bool
  | .waiting _ => false
  | .started _ progress => progress.summary?.isNone

end Job

/-- A batch that is being validated, its jobs in the order of the records. -/
structure Pool where
  cache : PatternCache
  jobs : List Job
  deriving Repr

namespace Pool

/-- How many workers there are: one, unless more are asked for. -/
def size (maxWorkers : Int) : Nat := if 1 < maxWorkers then maxWorkers.toNat else 1

/-- A batch before any of its records is taken up. -/
def waiting (cache : PatternCache) (records : List FieldValues) : Pool :=
  ⟨cache, records.map .waiting⟩

/-- What may happen next: a free worker takes up any record that waits, at any moment, or the validation of any
record that is taken up goes on. -/
inductive Step (lookup : Option ReferenceLookup) (settings : ValidationSettings)
    (rules : List (Text × List Rule)) (workers : Nat) : Pool → Pool → Prop where
  | takeUp {cache : PatternCache} {before after : List Job} (record : FieldValues) (moment : Int)
      (free : (before ++ after).countP Job.isBusy < workers) :
      Step lookup settings rules workers ⟨cache, before ++ .waiting record :: after⟩
        ⟨cache, before ++
          .started record (.start { settings with validatedAt := moment } rules record) :: after⟩
  | goOn {cache : PatternCache} {before after : List Job} (record : FieldValues) (progress : Progress)
      (undone : progress.summary? = none) :
      Step lookup settings rules workers ⟨cache, before ++ .started record progress :: after⟩
        ⟨(progress.step lookup settings.threshold rules record cache).2, before ++
          .started record (progress.step lookup settings.threshold rules record cache).1 :: after⟩

/-- All records are validated, with these summaries in their order. -/
def Finished (pool : Pool) (parts : List Summary) : Prop :=
  pool.jobs.map Job.summary? = parts.map some

end Pool
end FixedExtract
