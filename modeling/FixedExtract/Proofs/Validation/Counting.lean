import FixedExtract.Proofs.Validation.Merging
import FixedExtract.Proofs.Validation.Workers
/-!
# What summaries count

Errors and warnings are counted as results come in, and counts are added when summaries are merged. So the
counts stay those of the results that are stored. Only fields are not: two records may have errors in fields of
one name, which count twice and are stored in one place. A threshold that was reached in any record shows in
every summary that the record went into.
-/

namespace FixedExtract

/-! ## Counting results -/

namespace FieldResults

/-- The stored results, field by field. -/
def stored (all : FieldResults) : List FieldResult := all.flatMap Prod.snd

/-- In how many fields there is a result that is not valid. -/
def faulty (all : FieldResults) : Nat := all.countP fun entry => entry.2.any fun r => !r.valid

/-- Whether results contain one that is not valid, as a number. -/
def faultOf (results : List FieldResult) : Nat := if results.any (fun r => !r.valid) then 1 else 0

theorem countP_stored_add (p : FieldResult → Bool) (field : Text) (results : List FieldResult)
    (all : FieldResults) : (add field results all).stored.countP p = all.stored.countP p + results.countP p := by
  induction all with
  | nil => simp [add, stored]
  | cons entry rest ih =>
    obtain ⟨name, before⟩ := entry
    unfold stored at ih ⊢
    rw [add]
    split
    · rw [List.flatMap_cons, List.flatMap_cons, List.countP_append, List.countP_append, List.countP_append]
      exact Nat.add_right_comm ..
    · rw [List.flatMap_cons, List.flatMap_cons, List.countP_append, List.countP_append, ih]
      omega

theorem countP_stored_merge (p : FieldResult → Bool) (a b : FieldResults) :
    (merge a b).stored.countP p = a.stored.countP p + b.stored.countP p := by
  induction b generalizing a with
  | nil => rfl
  | cons entry rest ih =>
    have split : (stored (entry :: rest)).countP p = entry.2.countP p + (stored rest).countP p := by
      rw [stored, List.flatMap_cons, List.countP_append, ← stored]
    show (merge (add entry.1 entry.2 a) rest).stored.countP p = _
    rw [ih, countP_stored_add, split]
    omega

theorem faulty_cons (name : Text) (results : List FieldResult) (rest : FieldResults) :
    faulty ((name, results) :: rest) = faultOf results + faulty rest := by
  rw [faulty, List.countP_cons]
  exact Nat.add_comm ..

theorem faultOf_append_le (a b : List FieldResult) : faultOf (a ++ b) ≤ faultOf a + faultOf b := by
  unfold faultOf
  rw [List.any_append]
  cases a.any _ <;> cases b.any _ <;> simp

/-- Results that are added make at most one more field faulty. -/
theorem faulty_add_le (field : Text) (results : List FieldResult) (all : FieldResults) :
    faulty (add field results all) ≤ faulty all + faultOf results := by
  induction all with
  | nil =>
    rw [add, faulty_cons]
    exact Nat.le_of_eq (Nat.add_comm ..)
  | cons entry rest ih =>
    obtain ⟨name, before⟩ := entry
    have joined := faultOf_append_le before results
    rw [add, faulty_cons]
    split
    · rw [faulty_cons]
      omega
    · rw [faulty_cons]
      omega

theorem faulty_add_of_notMem {field : Text} {all : FieldResults} (new : field ∉ all.map Prod.fst)
    (results : List FieldResult) : faulty (add field results all) = faulty all + faultOf results := by
  rw [add_of_notMem new, faulty, List.countP_append, ← faulty, ← faulty, faulty_cons]
  rfl

theorem faulty_merge_le (a b : FieldResults) : faulty (merge a b) ≤ faulty a + faulty b := by
  induction b generalizing a with
  | nil => exact Nat.le_refl _
  | cons entry rest ih =>
    have merged := ih (add entry.1 entry.2 a)
    have added := faulty_add_le entry.1 entry.2 a
    show faulty (merge (add entry.1 entry.2 a) rest) ≤ _
    rw [faulty_cons]
    omega

/-- A field is faulty when it has at least one error. -/
theorem faultOf_eq (results : List FieldResult) :
    faultOf results = if results.countP (fun r => !r.valid) = 0 then 0 else 1 := by
  unfold faultOf
  by_cases none : results.countP (fun r => !r.valid) = 0
  · rw [if_pos none, if_neg]
    rw [List.countP_eq_zero] at none
    simpa using none
  · rw [if_neg none, if_pos]
    rw [List.countP_eq_zero] at none
    simpa using none

theorem faultOf_le_countP (results : List FieldResult) :
    faultOf results ≤ results.countP fun r => !r.valid := by
  rw [faultOf_eq]
  split <;> omega

end FieldResults

namespace Summary

open FieldResults (faulty faultOf stored)

theorem length_allErrors (s : Summary) :
    s.allErrors.length = s.fieldResults.stored.countP fun r => !r.valid :=
  (List.countP_eq_length_filter).symm

theorem length_allWarnings (s : Summary) :
    s.allWarnings.length = s.fieldResults.stored.countP FieldResult.isCaution :=
  (List.countP_eq_length_filter).symm

theorem length_fieldsWithErrors (s : Summary) : s.fieldsWithErrors.length = s.fieldResults.faulty := by
  rw [fieldsWithErrors, List.length_map, faulty, List.countP_eq_length_filter]

/-! ## Where summaries come from -/

/-- The summary comes from validating records and batches, in order or by several workers, and from merging. Its
parts are the summaries of the single records, each with the threshold of its validation. -/
inductive Reached : List (Int × Summary) → Summary → Prop where
  | record (lookup : Option ReferenceLookup) (settings : ValidationSettings)
      (rules : List (Text × List Rule)) (cache : PatternCache) (record : FieldValues) :
      Reached [(settings.threshold, (cache.checkRecord lookup settings rules record).1)]
        (cache.checkRecord lookup settings rules record).1
  | batch {lookup : Option ReferenceLookup} {settings : ValidationSettings}
      {rules : List (Text × List Rule)} {cache after : PatternCache} {records : List FieldValues}
      {s : Summary} (validated : cache.checkRecords lookup settings rules records = (.ok s, after)) :
      Reached (((cache.prepare (rules.flatMap Prod.snd)).2.checkEach lookup settings rules records).1.map
        fun part => (settings.threshold, part)) s
  | workers {lookup : Option ReferenceLookup} {settings : ValidationSettings}
      {rules : List (Text × List Rule)} {cache : PatternCache} {records : List FieldValues}
      {workers : Nat} {pool : Pool} {parts : List Summary}
      (prepared : (cache.prepare (rules.flatMap Prod.snd)).1 = none)
      (run : Pool.Reaches lookup settings rules workers
        (.waiting (cache.prepare (rules.flatMap Prod.snd)).2 records) pool)
      (finished : pool.Finished parts) (moment : Int) :
      Reached (parts.map fun part => (settings.threshold, part))
        { mergeAll moment parts with batchId := settings.batchId }
  | merged {parts others : List (Int × Summary)} {a b : Summary} (left : Reached parts a)
      (right : Reached others b) : Reached (parts ++ others) (a.merge b)

/-- The counts of a summary are those of the results in it. -/
structure Tallied (s : Summary) : Prop where
  errors : s.totalErrors = s.fieldResults.stored.countP fun r => !r.valid
  warnings : s.totalWarnings = s.fieldResults.stored.countP FieldResult.isCaution
  faulty_le : s.fieldResults.faulty ≤ s.errorFieldCount
  errorFields_le : s.errorFieldCount ≤ s.totalErrors

theorem tallied_blank (totalFields : Int) (batchId : Option Text) (moment : Int) :
    (blank totalFields batchId moment).Tallied :=
  ⟨rfl, rfl, Nat.le_refl 0, Nat.le_refl 0⟩

theorem errorFieldCount_add (s : Summary) (field : Text) (results : List FieldResult) :
    (s.add field results).errorFieldCount = s.errorFieldCount + faultOf results := by
  rw [FieldResults.faultOf_eq]
  rfl

theorem Tallied.add {s : Summary} (h : s.Tallied) (field : Text) (results : List FieldResult) :
    (s.add field results).Tallied where
  errors := by
    show s.totalErrors + _ = (FieldResults.add field results s.fieldResults).stored.countP _
    rw [FieldResults.countP_stored_add, h.errors]
  warnings := by
    show s.totalWarnings + _ = (FieldResults.add field results s.fieldResults).stored.countP _
    rw [FieldResults.countP_stored_add, h.warnings]
  faulty_le := by
    rw [errorFieldCount_add]
    exact Nat.le_trans (FieldResults.faulty_add_le ..) (Nat.add_le_add_right h.faulty_le _)
  errorFields_le := by
    rw [errorFieldCount_add]
    exact Nat.add_le_add h.errorFields_le (FieldResults.faultOf_le_countP results)

theorem Tallied.merge {a b : Summary} (ha : a.Tallied) (hb : b.Tallied) : (a.merge b).Tallied where
  errors := by
    show a.totalErrors + b.totalErrors = (a.fieldResults.merge b.fieldResults).stored.countP _
    rw [FieldResults.countP_stored_merge, ha.errors, hb.errors]
  warnings := by
    show a.totalWarnings + b.totalWarnings = (a.fieldResults.merge b.fieldResults).stored.countP _
    rw [FieldResults.countP_stored_merge, ha.warnings, hb.warnings]
  faulty_le := Nat.le_trans (FieldResults.faulty_merge_le ..) (Nat.add_le_add ha.faulty_le hb.faulty_le)
  errorFields_le := Nat.add_le_add ha.errorFields_le hb.errorFields_le

/-- Besides, the fields with errors are among all fields, and the summary tells whether a threshold was reached
in one of its parts. -/
structure Counted (parts : List (Int × Summary)) (s : Summary) : Prop extends Tallied s where
  errorFields_le_total : (s.errorFieldCount : Int) ≤ s.totalFields
  threshold : s.thresholdExceeded = parts.any fun part => PatternCache.reaches part.1 part.2

theorem counted_blank (batchId : Option Text) (moment : Int) : Counted [] (blank 0 batchId moment) :=
  ⟨tallied_blank 0 batchId moment, Int.le_refl 0, rfl⟩

/-- Counts have to do with neither the batch nor the moment. -/
theorem Counted.restamp {threshold : Int} {s : Summary} (h : Counted [(threshold, s)] s)
    (batchId : Option Text) (moment : Int) :
    Counted [(threshold, s.restamp batchId moment)] (s.restamp batchId moment) :=
  ⟨⟨h.errors, h.warnings, h.faulty_le, h.errorFields_le⟩, h.errorFields_le_total, h.threshold⟩

theorem Counted.merge {parts others : List (Int × Summary)} {a b : Summary} (ha : Counted parts a)
    (hb : Counted others b) : Counted (parts ++ others) (a.merge b) where
  toTallied := ha.toTallied.merge hb.toTallied
  errorFields_le_total := by
    have left := ha.errorFields_le_total
    have right := hb.errorFields_le_total
    show ((a.errorFieldCount + b.errorFieldCount : Nat) : Int) ≤ a.totalFields + b.totalFields
    omega
  threshold := by
    show (a.thresholdExceeded || b.thresholdExceeded) = _
    rw [List.any_append, ha.threshold, hb.threshold]

theorem Counted.foldl_merge {parts : List (Int × Summary)} {s : Summary} (hs : Counted parts s)
    {threshold : Int} {others : List Summary} (ho : ∀ part ∈ others, Counted [(threshold, part)] part) :
    Counted (parts ++ others.map fun part => (threshold, part)) (others.foldl Summary.merge s) := by
  induction others generalizing parts s with
  | nil =>
    rw [List.map_nil, List.append_nil]
    exact hs
  | cons first rest ih =>
    have merged := ih (hs.merge (ho first List.mem_cons_self)) fun part h =>
      ho part (List.mem_cons_of_mem first h)
    rw [List.append_assoc] at merged
    exact merged

end Summary

/-! ## Validating a record -/

namespace PatternCache

section
variable (lookup : Option ReferenceLookup) (threshold : Int) (record : FieldValues)
  (rules : List (Text × List Rule)) (cache : PatternCache)

/-- The fields still to be checked leave room for their errors, and the threshold stops the checks at once, so
that it is not reached before. -/
theorem counted_checkFields {s : Summary} {names : List Text} (tallied : s.Tallied)
    (room : (s.errorFieldCount + names.length : Int) ≤ s.totalFields)
    (unflagged : s.thresholdExceeded = false) (below : reaches threshold s = false) :
    let checked := (cache.checkFields lookup threshold record rules s names).1
    Summary.Counted [(threshold, checked)] checked := by
  induction names generalizing cache s with
  | nil =>
    refine ⟨tallied, ?_, ?_⟩
    · show (s.errorFieldCount : Int) ≤ s.totalFields
      simpa using room
    · simp [checkFields, unflagged, below]
  | cons name rest ih =>
    rw [checkFields_cons]
    generalize cache.checkField lookup name (record.lookup name).join
      ((rules.lookup name).getD []) = outcome
    have added := tallied.add name outcome.1
    -- The results of one field make at most one more field faulty.
    have roomLeft : ((s.add name outcome.1).errorFieldCount + rest.length : Int) ≤
        (s.add name outcome.1).totalFields := by
      have one : FieldResults.faultOf outcome.1 ≤ 1 := by
        unfold FieldResults.faultOf
        split <;> omega
      have count := Summary.errorFieldCount_add s name outcome.1
      show _ ≤ s.totalFields
      rw [List.length_cons] at room
      omega
    by_cases reached : reaches threshold (s.add name outcome.1) = true
    · simp only [if_pos reached]
      refine ⟨⟨added.errors, added.warnings, added.faulty_le, added.errorFields_le⟩, ?_, ?_⟩
      · show ((s.add name outcome.1).errorFieldCount : Int) ≤ (s.add name outcome.1).totalFields
        omega
      · show true = (reaches threshold (s.add name outcome.1) || false)
        rw [reached]
        rfl
    · simp only [if_neg reached]
      exact ih outcome.2 added roomLeft unflagged (by simpa using reached)

/-- When no field is checked twice, the fields that count as faulty are those with errors. -/
theorem faulty_checkFields {s : Summary} {names : List Text} (distinct : names.Nodup)
    (new : ∀ name ∈ names, name ∉ s.fieldResults.map Prod.fst)
    (same : s.errorFieldCount = s.fieldResults.faulty) :
    let checked := (cache.checkFields lookup threshold record rules s names).1
    checked.errorFieldCount = checked.fieldResults.faulty := by
  induction names generalizing cache s with
  | nil => exact same
  | cons name rest ih =>
    rw [checkFields_cons]
    generalize cache.checkField lookup name (record.lookup name).join
      ((rules.lookup name).getD []) = outcome
    rw [List.nodup_cons] at distinct
    have absent := new name List.mem_cons_self
    have stillSame : (s.add name outcome.1).errorFieldCount = (s.add name outcome.1).fieldResults.faulty := by
      rw [Summary.errorFieldCount_add, same]
      exact (FieldResults.faulty_add_of_notMem absent outcome.1).symm
    have stillNew : ∀ other ∈ rest, other ∉ (s.add name outcome.1).fieldResults.map Prod.fst := by
      intro other ho
      show other ∉ (FieldResults.add name outcome.1 s.fieldResults).map Prod.fst
      rw [FieldResults.add_of_notMem absent, List.map_append, List.mem_append, not_or]
      refine ⟨new other (List.mem_cons_of_mem name ho), ?_⟩
      rw [List.map_singleton, List.mem_singleton]
      rintro rfl
      exact distinct.1 ho
    dsimp only
    split
    · exact stillSame
    · exact ih outcome.2 distinct.2 stillNew stillSame

theorem nodup_fieldNames (fields : (record.map Prod.fst).Nodup) (groups : (rules.map Prod.fst).Nodup) :
    (fieldNames record rules).Nodup := by
  refine List.nodup_append.2 ⟨fields, groups.filter _, ?_⟩
  rintro name hn other ho rfl
  have absent := (List.mem_filter.1 ho).2
  simp [hn] at absent

end

section
variable (lookup : Option ReferenceLookup) (settings : ValidationSettings)
  (rules : List (Text × List Rule)) (cache : PatternCache)

theorem counted_checkRecord (record : FieldValues) :
    let checked := (cache.checkRecord lookup settings rules record).1
    Summary.Counted [(settings.threshold, checked)] checked := by
  refine counted_checkFields lookup settings.threshold record rules cache
    (Summary.tallied_blank ..) ?_ rfl ?_
  · exact Int.le_of_eq (Int.zero_add _)
  · -- A threshold that counts is positive, and there are no errors yet.
    unfold reaches Summary.blank
    rw [Bool.and_eq_false_iff, decide_eq_false_iff_not, decide_eq_false_iff_not]
    dsimp only
    omega

theorem counted_of_mem_checkEach (records : List FieldValues) :
    ∀ part ∈ (cache.checkEach lookup settings rules records).1,
      Summary.Counted [(settings.threshold, part)] part := by
  induction records generalizing cache with
  | nil =>
    intro part hp
    cases hp
  | cons record rest ih =>
    intro part hp
    rcases List.mem_cons.1 hp with rfl | later
    · exact counted_checkRecord lookup settings rules cache record
    · exact ih _ part later

/-- Merged summaries of records are counted, whatever name their batch gets. -/
theorem counted_mergeAll (moment : Int) {parts : List Summary}
    (counted : ∀ part ∈ parts, Summary.Counted [(settings.threshold, part)] part) :
    Summary.Counted (parts.map fun part => (settings.threshold, part))
      { Summary.mergeAll moment parts with batchId := settings.batchId } := by
  have merged := (Summary.counted_blank none moment).foldl_merge counted
  exact ⟨⟨merged.errors, merged.warnings, merged.faulty_le, merged.errorFields_le⟩,
    merged.errorFields_le_total, merged.threshold⟩

/-- A batch comes to the merger of its records, in its own name. -/
theorem counted_of_checkRecords {after : PatternCache} {records : List FieldValues} {s : Summary}
    (validated : cache.checkRecords lookup settings rules records = (.ok s, after)) :
    Summary.Counted
      (((cache.prepare (rules.flatMap Prod.snd)).2.checkEach lookup settings rules records).1.map
        fun part => (settings.threshold, part)) s := by
  unfold checkRecords at validated
  generalize cache.prepare (rules.flatMap Prod.snd) = prepared at validated ⊢
  obtain ⟨refusal, ready⟩ := prepared
  cases refusal with
  | some refusal => cases validated
  | none =>
    cases validated
    exact counted_mergeAll settings settings.validatedAt
      (counted_of_mem_checkEach lookup settings rules ready records)

/-- Workers leave each record with the summary that it has by itself, the moment aside. -/
theorem counted_of_workers {records : List FieldValues} {workers : Nat} {pool : Pool}
    {parts : List Summary} (prepared : (cache.prepare (rules.flatMap Prod.snd)).1 = none)
    (run : Pool.Reaches lookup settings rules workers
      (.waiting (cache.prepare (rules.flatMap Prod.snd)).2 records) pool)
    (finished : pool.Finished parts) :
    ∀ part ∈ parts, Summary.Counted [(settings.threshold, part)] part := by
  have faithful := Pool.faithful_waiting.reaches (prepared_prepare prepared) run
  intro part hp
  have unstamped := List.mem_map_of_mem (f := Summary.unstamped) hp
  rw [faithful.parts finished, List.mem_map] at unstamped
  obtain ⟨record, -, same⟩ := unstamped
  have alone := counted_checkRecord lookup settings rules
    (cache.prepare (rules.flatMap Prod.snd)).2 record
  have counted := alone.restamp part.batchId part.validatedAt
  rw [Summary.restamp_eq_of_unstamped same] at counted
  exact counted

end

end PatternCache

namespace Summary

theorem Reached.counted {parts : List (Int × Summary)} {s : Summary} (h : Reached parts s) :
    Counted parts s := by
  induction h with
  | record lookup settings rules cache record =>
    exact PatternCache.counted_checkRecord lookup settings rules cache record
  | batch validated => exact PatternCache.counted_of_checkRecords _ _ _ _ validated
  | workers prepared run finished moment =>
    exact PatternCache.counted_mergeAll _ moment
      (PatternCache.counted_of_workers _ _ _ _ prepared run finished)
  | merged _ _ ihLeft ihRight => exact ihLeft.merge ihRight

/-- Whatever records and batches a summary is merged from: its counts are those of the results that it holds,
the fields with errors are no more than those counted, which are no more than the errors and the fields, and it
is valid exactly when all results are and no part has reached its threshold. In the summary of one record the
fields counted are those with errors. -/
theorem reached_counts :
    (∀ parts s, Reached parts s →
      s.totalErrors = s.allErrors.length ∧ s.totalWarnings = s.allWarnings.length ∧
      s.fieldsWithErrors.length ≤ s.errorFieldCount ∧ s.errorFieldCount ≤ s.totalErrors ∧
      0 ≤ s.validFields ∧ s.validFields ≤ s.totalFields ∧
      (s.isValid = true ↔ (∀ r ∈ s.results, r.valid = true) ∧
        ∀ part ∈ parts, PatternCache.reaches part.1 part.2 = false)) ∧
    ∀ lookup settings rules cache record, (record.map Prod.fst).Nodup → (rules.map Prod.fst).Nodup →
      let s := (PatternCache.checkRecord lookup settings rules cache record).1
      s.errorFieldCount = s.fieldsWithErrors.length := by
  constructor
  · intro parts s reached
    have counted := reached.counted
    refine ⟨?_, ?_, ?_, counted.errorFields_le, ?_, ?_, ?_⟩
    · rw [length_allErrors, counted.errors]
    · rw [length_allWarnings, counted.warnings]
    · rw [length_fieldsWithErrors]
      exact counted.faulty_le
    · exact Int.sub_nonneg_of_le counted.errorFields_le_total
    · exact Int.sub_le_self _ (Int.natCast_nonneg _)
    · rw [isValid, Bool.and_eq_true, decide_eq_true_eq, counted.errors, List.countP_eq_zero,
        counted.threshold, Bool.not_eq_true', List.any_eq_false]
      simp [results, FieldResults.stored]
  · intro lookup settings rules cache record fields groups
    dsimp only
    rw [length_fieldsWithErrors]
    exact PatternCache.faulty_checkFields lookup settings.threshold record rules cache
      (PatternCache.nodup_fieldNames record rules fields groups) (by simp [blank]) rfl

/-- A record and a batch of two such records, all with an error in the same field: it is counted three times and
stored once. The batch stops at its first error in each record. -/
theorem reached_counts_repeatedField :
    let rules : List (Text × List Rule) := [("CODE", [PatternCache.patternRule "D" "CODE" "[0-9]+" 1])]
    let record : FieldValues := [("CODE", some "x"), ("CITY", none)]
    let single := (PatternCache.empty.checkRecord none ⟨0, none, 0⟩ rules record).1
    let batch := (PatternCache.empty.checkRecords none ⟨1, none, 0⟩ rules [record, record]).1
    (record.map Prod.fst).Nodup ∧ (rules.map Prod.fst).Nodup ∧
      single.errorFieldCount = single.fieldsWithErrors.length ∧
      ∃ s parts, batch = .ok s ∧ Reached ((0, single) :: parts) (single.merge s) ∧
        (single.merge s).totalErrors = (single.merge s).allErrors.length ∧
        (single.merge s).errorFieldCount = 3 ∧ (single.merge s).fieldsWithErrors = ["CODE".toList] ∧
        (single.merge s).skippedFields = ["CITY".toList, "CITY".toList] := by
  intro rules record single batch
  have fields : (record.map Prod.fst).Nodup := by decide
  have groups : (rules.map Prod.fst).Nodup := by decide
  have counted : single.errorFieldCount = single.fieldsWithErrors.length :=
    reached_counts.2 none ⟨0, none, 0⟩ rules .empty record fields groups
  refine ⟨fields, groups, counted, ?_⟩
  have merged : batch.map (fun s => ((single.merge s).errorFieldCount, (single.merge s).fieldsWithErrors,
      (single.merge s).skippedFields)) = .ok (3, ["CODE".toList], ["CITY".toList, "CITY".toList]) := by
    decide +kernel
  obtain ⟨s, hs, seen⟩ := map_eq_ok_iff.1 merged
  have reached := Reached.merged (.record none ⟨0, none, 0⟩ rules .empty record)
    (.batch (Prod.ext hs rfl))
  obtain ⟨errors, -⟩ := reached_counts.1 _ _ reached
  exact ⟨s, _, hs, reached, errors, congrArg Prod.fst seen, congrArg (·.2.1) seen, congrArg (·.2.2) seen⟩

end Summary
end FixedExtract
