import FixedExtract.Proofs.Rule.Grouping
import FixedExtract.Proofs.Validation.Cache
import FixedExtract.Service.Handler
/-!
# Batches of one record

A batch reads the patterns of its rules field by field, in execution order and without the rules that name no
field, while a record that is validated by itself has the patterns read in the order of the rows. When rules
with the same identifier match values against the same pattern, this makes no difference, and the summary of
the batch is the summary of its record.
-/

namespace FixedExtract

/-! ## Merging one summary -/

namespace FieldResults

/-- No field has two places among the results. -/
def Distinct (results : FieldResults) : Prop := (results.map Prod.fst).Nodup

theorem add_of_notMem {field : Text} {results : List FieldResult} {all : FieldResults}
    (new : field ∉ all.map Prod.fst) : add field results all = all ++ [(field, results)] := by
  induction all with
  | nil => rfl
  | cons entry rest ih =>
    obtain ⟨name, before⟩ := entry
    rw [List.map_cons, List.mem_cons, not_or] at new
    rw [add, if_neg fun same => new.1 same.symm, ih new.2, List.cons_append]

theorem fields_add_of_mem {field : Text} {results : List FieldResult} {all : FieldResults}
    (old : field ∈ all.map Prod.fst) : (add field results all).map Prod.fst = all.map Prod.fst := by
  induction all with
  | nil => cases old
  | cons entry rest ih =>
    obtain ⟨name, before⟩ := entry
    rw [add]
    split
    · rfl
    · rename_i other
      have later : field ∈ rest.map Prod.fst :=
        (List.mem_cons.1 old).resolve_left fun same => other same.symm
      rw [List.map_cons, ih later, List.map_cons]

theorem Distinct.add {all : FieldResults} (distinct : Distinct all) (field : Text)
    (results : List FieldResult) : Distinct (FieldResults.add field results all) := by
  by_cases old : field ∈ all.map Prod.fst
  · rw [Distinct, fields_add_of_mem old]
    exact distinct
  · rw [Distinct, add_of_notMem old, List.map_append]
    refine List.nodup_append.2 ⟨distinct, List.pairwise_singleton _ _, ?_⟩
    intro name hn other ho same
    rw [List.map_singleton, List.mem_singleton] at ho
    rw [same, ho] at hn
    exact old hn

/-- Merging adds new fields behind those that are there. -/
theorem merge_of_distinct {a b : FieldResults} (distinct : Distinct (a ++ b)) : merge a b = a ++ b := by
  induction b generalizing a with
  | nil => exact (List.append_nil a).symm
  | cons entry rest ih =>
    obtain ⟨field, results⟩ := entry
    have new : field ∉ a.map Prod.fst := by
      rw [Distinct, List.map_append, List.map_cons] at distinct
      intro old
      exact (List.nodup_append.1 distinct).2.2 field old field List.mem_cons_self rfl
    have shifted : Distinct ((a ++ [(field, results)]) ++ rest) := by
      rw [List.append_assoc]
      exact distinct
    rw [merge, List.foldl_cons, add_of_notMem new, ← merge, ih shifted, List.append_assoc,
      List.singleton_append]

end FieldResults

namespace Summary

/-- The summary with another batch and another moment of validation. -/
def restamp (s : Summary) (batchId : Option Text) (validatedAt : Int) : Summary :=
  { s with batchId := batchId, validatedAt := validatedAt }

theorem add_restamp (s : Summary) (batchId : Option Text) (validatedAt : Int) (field : Text)
    (results : List FieldResult) :
    (s.restamp batchId validatedAt).add field results =
      (s.add field results).restamp batchId validatedAt := rfl

/-- A single summary is its own merger, once it has the stamps that mergers get. -/
theorem mergeAll_singleton {s : Summary} (distinct : s.fieldResults.Distinct) (batchId : Option Text)
    (validatedAt : Int) :
    { mergeAll validatedAt [s.restamp batchId validatedAt] with batchId := batchId } =
      s.restamp batchId validatedAt := by
  have results : FieldResults.merge [] s.fieldResults = s.fieldResults :=
    FieldResults.merge_of_distinct distinct
  simp [mergeAll, merge, blank, restamp, results]

end Summary

namespace PatternCache

/-! ## Records -/

section
variable (lookup : Option ReferenceLookup) (threshold : Int) (record : FieldValues)
  (rules : List (Text × List Rule)) (cache : PatternCache)

/-- The check of one field, and of those behind it unless there are too many errors. -/
theorem checkFields_cons (s : Summary) (name : Text) (rest : List Text) :
    cache.checkFields lookup threshold record rules s (name :: rest) =
      let outcome := cache.checkField lookup name (record.lookup name).join
        ((rules.lookup name).getD [])
      let s := s.add name outcome.1
      if reaches threshold s then
        ({ s with thresholdExceeded := true, skippedFields := rest }, outcome.2)
      else outcome.2.checkFields lookup threshold record rules s rest := rfl

/-- Which batch is validated and when makes no difference to the checks. -/
theorem checkFields_restamp (s : Summary) (batchId : Option Text) (validatedAt : Int)
    (names : List Text) :
    (cache.checkFields lookup threshold record rules (s.restamp batchId validatedAt) names).1 =
      (cache.checkFields lookup threshold record rules s names).1.restamp batchId validatedAt := by
  induction names generalizing cache s with
  | nil => rfl
  | cons name rest ih =>
    rw [checkFields_cons, checkFields_cons]
    generalize cache.checkField lookup name (record.lookup name).join
      ((rules.lookup name).getD []) = outcome
    dsimp only
    rw [Summary.add_restamp]
    by_cases reached : reaches threshold (s.add name outcome.1) = true
    · have stamped : reaches threshold ((s.add name outcome.1).restamp batchId validatedAt) = true :=
        reached
      rw [if_pos reached, if_pos stamped]
      rfl
    · have stamped : ¬reaches threshold ((s.add name outcome.1).restamp batchId validatedAt) = true :=
        reached
      rw [if_neg reached, if_neg stamped]
      exact ih outcome.2 (s.add name outcome.1)

/-- However many fields are checked, every one of them has its results in one place. -/
theorem distinct_checkFields {s : Summary} (distinct : s.fieldResults.Distinct) (names : List Text) :
    (cache.checkFields lookup threshold record rules s names).1.fieldResults.Distinct := by
  induction names generalizing cache s with
  | nil => exact distinct
  | cons name rest ih =>
    rw [checkFields_cons]
    dsimp only
    split
    · exact distinct.add name _
    · exact ih _ (distinct.add name _)

variable (batchId other : Option Text) (moment later : Int)

theorem checkRecord_restamp :
    (cache.checkRecord lookup ⟨threshold, other, later⟩ rules record).1 =
      (cache.checkRecord lookup ⟨threshold, batchId, moment⟩ rules record).1.restamp other later :=
  checkFields_restamp lookup threshold record rules cache
    (.blank (fieldNames record rules).length batchId moment) other later (fieldNames record rules)

theorem distinct_checkRecord :
    (cache.checkRecord lookup ⟨threshold, batchId, moment⟩ rules record).1.fieldResults.Distinct := by
  apply distinct_checkFields
  exact List.nodup_nil

end

/-! ## Preparing -/

/-- The pattern that the rule matches values against, if any, is not refused. -/
def Accepted (rule : Rule) : Prop :=
  ∀ source ∈ regex? rule, ∀ refusal, Regex.Pattern.read source ≠ .error (.refused refusal)

theorem readPattern_eq_error_iff {source : Text} {refusal : Regex.Refusal} :
    readPattern source = .error refusal ↔ Regex.Pattern.read source = .error (.refused refusal) := by
  unfold readPattern
  cases Regex.Pattern.read source with
  | ok pattern => simp
  | error fault => cases fault <;> simp

/-- All rules are prepared exactly when none of their patterns is refused. -/
theorem prepare_eq_none_iff {rules : List Rule} {cache : PatternCache} :
    (cache.prepare rules).1 = none ↔ ∀ rule ∈ rules, Accepted rule := by
  induction rules generalizing cache with
  | nil => simp [prepare]
  | cons rule rest ih =>
    rw [List.forall_mem_cons, prepare]
    cases pattern : rule.pattern?.filter fun _ => rule.kind.hasPattern with
    | none =>
      have accepted : Accepted rule := by
        intro source hs
        rw [regex?, pattern] at hs
        cases hs
      simp only [accepted, true_and]
      exact ih
    | some source =>
      have accepted_iff : Accepted rule ↔
          ∀ refusal, Regex.Pattern.read source ≠ .error (.refused refusal) := by
        simp only [Accepted, regex?, pattern, Option.mem_def, Option.some.injEq, forall_eq']
      simp only
      cases compiled : cache.compile rule.id source with
      | ok more =>
        have accepted : Accepted rule := by
          rw [accepted_iff]
          intro refusal refused
          rw [compile_eq_error_iff.2 (readPattern_eq_error_iff.2 refused)] at compiled
          cases compiled
        simp only [accepted, true_and]
        exact ih
      | error refusal =>
        have refused : ¬Accepted rule := by
          rw [accepted_iff]
          intro accepted
          exact accepted refusal (readPattern_eq_error_iff.1 (compile_eq_error_iff.1 compiled))
        simp [refused]

/-! ## One record -/

/-- Once its patterns are prepared, a batch of one record merges the summary of that record. -/
theorem checkRecords_of_prepared {lookup : Option ReferenceLookup} {settings : ValidationSettings}
    {rules : List (Text × List Rule)} {cache : PatternCache} {record : FieldValues}
    (prepared : (cache.prepare (rules.flatMap Prod.snd)).1 = none) :
    (cache.checkRecords lookup settings rules [record]).1 =
      .ok { Summary.mergeAll settings.validatedAt
          [((cache.prepare (rules.flatMap Prod.snd)).2.checkRecord lookup settings rules record).1] with
        batchId := settings.batchId } := by
  rw [checkRecords]
  generalize cache.prepare (rules.flatMap Prod.snd) = outcome at prepared ⊢
  obtain ⟨refusal, more⟩ := outcome
  cases prepared
  rfl

section
variable {rules : List Rule} (shared : Consistent regex? rules) (lookup : Option ReferenceLookup)
  (record : FieldValues) (threshold : Int) (batchId other : Option Text) (moment later : Int)
include shared

/-- The caches that are prepared in the two orders are both sound, so that the record is checked alike. -/
theorem checkRecords_one (prepared : (empty.prepare rules).1 = none) :
    (empty.checkRecords lookup ⟨threshold, other, later⟩ (Rule.byField rules) [record]).1 =
      .ok (((empty.prepare rules).2.checkRecord lookup ⟨threshold, batchId, moment⟩
        (Rule.byField rules) record).1.restamp other later) := by
  have unambiguous := unambiguous_bookOf shared
  have covers : Covers (bookOf regex? rules) rules := fun rule hr source hs => ⟨rule, hr, rfl, hs⟩
  have fieldCovers := covers.mono Rule.mem_of_mem_byField
  have inRows := (alike_prepare covers (sound_empty _) (sound_empty _)).left
  have byField := (alike_prepare fieldCovers (sound_empty _) (sound_empty _)).left
  have alike := (alike_checkRecord unambiguous lookup fieldCovers ⟨threshold, batchId, moment⟩ record
    byField inRows).answer
  have ready : (empty.prepare ((Rule.byField rules).flatMap Prod.snd)).1 = none := by
    rw [prepare_eq_none_iff] at prepared ⊢
    intro rule hr
    exact prepared rule (Rule.mem_of_mem_byField rule hr)
  rw [← alike, checkRecords_of_prepared ready,
    checkRecord_restamp lookup threshold record (Rule.byField rules) _ batchId other moment later,
    Summary.mergeAll_singleton (distinct_checkRecord ..)]

/-- A record can be validated by itself when none of the patterns is refused. Whenever it can, a batch of just
this record has the same summary, its batch and its moment of validation apart. -/
theorem checkRecords_singleton :
    ((∀ rule ∈ rules, Accepted rule) → (empty.prepare rules).1 = none) ∧
    ((empty.prepare rules).1 = none →
      (empty.checkRecords lookup ⟨threshold, other, later⟩ (Rule.byField rules) [record]).1 =
        .ok (((empty.prepare rules).2.checkRecord lookup ⟨threshold, batchId, moment⟩
          (Rule.byField rules) record).1.restamp other later)) :=
  ⟨prepare_eq_none_iff.2,
    checkRecords_one shared lookup record threshold batchId other moment later⟩

end

/-- Two rules of one identifier and one pattern, and another one in between. -/
theorem checkRecords_singleton_sharedPattern :
    let rules := [patternRule "L" "CODE" "[a-z]+" 2, patternRule "D" "COUNT" "[0-9]+" 1,
      patternRule "L" "CODE" "[a-z]+" 1]
    let record : FieldValues := [("CODE", some "ab"), ("COUNT", some "x")]
    Consistent regex? rules ∧ (empty.prepare rules).1 = none ∧
      (empty.checkRecords none ⟨0, some "N", 7⟩ (Rule.byField rules) [record]).1 =
        .ok (((empty.prepare rules).2.checkRecord none ⟨0, none, 3⟩ (Rule.byField rules)
          record).1.restamp (some "N") 7) := by
  intro rules record
  have shared : Consistent regex? rules := by decide
  have prepared : (empty.prepare rules).1 = none := by decide +kernel
  exact ⟨shared, prepared, (checkRecords_singleton shared none record 0 none (some "N") 3 7).2 prepared⟩

/-- Two rules of one identifier that differ in their patterns. Validated by itself, the record is matched
against the pattern that is prepared last, which is that of the second row; in a batch it is that of the
first row, whose rule is executed last. -/
theorem checkRecords_repeatedIdentifier :
    let first := patternRule "R" "A" "a" 2
    let second := patternRule "R" "A" "b" 1
    let rules := [first, second]
    let record : FieldValues := [("A", some "a")]
    (empty.prepare rules).1 = none ∧
      ((empty.prepare rules).2.checkRecord none ⟨0, none, 0⟩ (Rule.byField rules)
        record).1.totalErrors = 2 ∧
      ∃ s, (empty.checkRecords none ⟨0, none, 0⟩ (Rule.byField rules) [record]).1 = .ok s ∧
        s.totalErrors = 0 := by
  intro first second rules record
  let groups : List (Text × List Rule) := [("A", [second, first])]
  have grouped : Rule.byField rules = groups := by
    have sorted : Rule.sort [first, second] = [second, first] := by
      simp [Rule.sort, List.mergeSort, List.MergeSort.Internal.splitInTwo, Rule.inOrder, first, second,
        patternRule]
    show [("A".toList, Rule.sort [first, second])] = groups
    rw [sorted]
  have sorted : Rule.sort ([second, first].filter Rule.enabled) = [second, first] :=
    List.mergeSort_of_pairwise (by decide)
  have checked (cache : PatternCache) :
      (cache.checkRecord none ⟨0, none, 0⟩ groups record).1 =
        (Summary.blank 1 none 0).add "A"
          (cache.checkInOrder none "A" (some "a") [second, first]).1 := by
    have inOrder : cache.checkField none "A" (some "a") [second, first] =
        cache.checkInOrder none "A" (some "a") [second, first] := by rw [checkField, sorted]
    rw [← inOrder]
    rfl
  rw [grouped]
  refine ⟨?_, ?_, ?_⟩
  · decide +kernel
  · rw [checked]
    decide +kernel
  · have prepared : (empty.prepare (groups.flatMap Prod.snd)).1 = none := by decide +kernel
    refine ⟨_, checkRecords_of_prepared prepared, ?_⟩
    rw [checked]
    decide +kernel

end PatternCache

/-! ## Responses -/

/-- A request with a batch of one record has the response that a request with the record itself has. -/
theorem Service.validateBatch_one {settings : Settings} {record : FieldValues} {rows : List Entries}
    {threshold : Option Int} {response : Response} (batchId : Option Text)
    (shared : ∀ rules, Rule.loadAll (rows.map fun row => .value (.map row)) = .ok rules →
      PatternCache.Consistent PatternCache.regex? rules)
    (alone : validateRecord settings ⟨record, rows, threshold⟩ = .ok response) :
    validateBatch settings ⟨[record], rows, threshold, batchId⟩ = .ok response := by
  unfold validateRecord at alone
  unfold validateBatch
  unfold withRules at alone ⊢
  cases loaded : Rule.loadAll (rows.map fun row => .value (.map row)) with
  | error fault =>
    rw [loaded] at alone
    exact alone
  | ok rules =>
    rw [loaded] at alone
    have one := PatternCache.checkRecords_one (shared rules loaded) none record
      (threshold.getD settings.errorThreshold) none batchId 0 0
    dsimp only at alone ⊢
    generalize PatternCache.empty.prepare rules = outcome at alone one
    obtain ⟨refusal, cache⟩ := outcome
    cases refusal with
    | some refusal => cases alone
    | none =>
      rw [one rfl]
      exact alone

end FixedExtract
