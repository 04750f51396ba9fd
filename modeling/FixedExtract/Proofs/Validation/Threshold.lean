import FixedExtract.Proofs.Validation.Counting
/-!
# How far a record is validated

The fields of a record are checked in order until the errors reach the threshold. The fields that are checked are
a prefix of all fields: the shortest one with so many errors, or all of them when there are fewer. Each field has
the results that its check gives with the cache that the fields in front of it leave behind.
-/

namespace FixedExtract

namespace FieldResults

/-- How many of the results are not valid. -/
def errorCount (all : FieldResults) : Nat := all.stored.countP fun r => !r.valid

theorem errorCount_cons (name : Text) (results : List FieldResult) (rest : FieldResults) :
    errorCount ((name, results) :: rest) = results.countP (fun r => !r.valid) + errorCount rest := by
  rw [errorCount, stored, List.flatMap_cons, List.countP_append, ← stored, ← errorCount]

end FieldResults

namespace PatternCache

variable (lookup : Option ReferenceLookup) (record : FieldValues) (rules : List (Text × List Rule))

/-! ## Fields in turn -/

/-- Checks the value that a record has for a field, which is null when the record has none. -/
def checkNamed (cache : PatternCache) (name : Text) : List FieldResult × PatternCache :=
  cache.checkField lookup name (record.lookup name).join ((rules.lookup name).getD [])

/-- The results of fields, each checked with the cache that those in front of it leave behind. -/
def resultsInTurn (cache : PatternCache) : List Text → FieldResults
  | [] => []
  | name :: rest =>
    (name, (cache.checkNamed lookup record rules name).1) ::
      resultsInTurn (cache.checkNamed lookup record rules name).2 rest

/-- The cache that checking fields leaves behind. -/
def afterFields (cache : PatternCache) (names : List Text) : PatternCache :=
  names.foldl (fun cache name => (cache.checkNamed lookup record rules name).2) cache

variable {lookup record rules} {cache : PatternCache}

theorem fields_resultsInTurn (names : List Text) :
    (cache.resultsInTurn lookup record rules names).map Prod.fst = names := by
  induction names generalizing cache with
  | nil => rfl
  | cons name rest ih => rw [resultsInTurn, List.map_cons, ih]

theorem resultsInTurn_append (front rest : List Text) :
    cache.resultsInTurn lookup record rules (front ++ rest) =
      cache.resultsInTurn lookup record rules front ++
        (cache.afterFields lookup record rules front).resultsInTurn lookup record rules rest := by
  induction front generalizing cache with
  | nil => rfl
  | cons name front ih =>
    rw [List.cons_append, resultsInTurn, ih, resultsInTurn, List.cons_append]
    rfl

/-- A field that comes once has the results of its own check. -/
theorem lookup_resultsInTurn {front rest : List Text} {name : Text} (first : name ∉ front) :
    (cache.resultsInTurn lookup record rules (front ++ name :: rest)).lookup name =
      some ((cache.afterFields lookup record rules front).checkNamed lookup record rules name).1 := by
  have absent : (cache.resultsInTurn lookup record rules front).lookup name = none := by
    rw [List.lookup_eq_none_iff]
    intro entry member
    rw [bne_iff_ne]
    rintro rfl
    have key := List.mem_map_of_mem (f := Prod.fst) member
    rw [fields_resultsInTurn] at key
    exact first key
  rw [resultsInTurn_append, List.lookup_append, absent, Option.none_or, resultsInTurn,
    List.lookup_cons_self]

/-- A prepared cache stays as it is from field to field. -/
theorem Prepared.afterFields (ready : cache.Prepared (rules.flatMap Prod.snd)) (names : List Text) :
    cache.afterFields lookup record rules names = cache := by
  induction names with
  | nil => rfl
  | cons name rest ih =>
    have here : (cache.checkNamed lookup record rules name).2 = cache :=
      Prepared.checkField lookup (ready.mono (mem_rules_of_lookup name)) name _
    rw [PatternCache.afterFields, List.foldl_cons, here]
    exact ih

/-! ## Stopping -/

variable (lookup record rules)

/-- What comes of checking fields that are split into those visited and those skipped, from a summary `s` on. -/
structure Visits (threshold : Int) (cache : PatternCache) (s : Summary) (visited skipped : List Text)
    (outcome : Summary × PatternCache) : Prop where
  results : outcome.1.fieldResults = s.fieldResults ++ cache.resultsInTurn lookup record rules visited
  after : outcome.2 = cache.afterFields lookup record rules visited
  skips : outcome.1.skippedFields = skipped
  total : outcome.1.totalFields = s.totalFields
  errors : outcome.1.totalErrors =
    s.totalErrors + (cache.resultsInTurn lookup record rules visited).errorCount
  flag : outcome.1.thresholdExceeded = reaches threshold outcome.1
  below : ∀ n < visited.length, 0 < threshold →
    (s.totalErrors + FieldResults.errorCount ((cache.resultsInTurn lookup record rules visited).take n) : Int) <
      threshold
  stopped : skipped ≠ [] → reaches threshold outcome.1 = true

variable {lookup record rules} {threshold : Int} {s : Summary}

theorem reaches_eq_false_iff : reaches threshold s = false ↔ (0 < threshold → s.totalErrors < threshold) := by
  rw [reaches, Bool.and_eq_false_iff, decide_eq_false_iff_not, decide_eq_false_iff_not]
  omega

/-- The check of the first of some fields, after which the others are checked or skipped. -/
theorem Visits.cons {name : Text} {visited skipped : List Text} {outcome : Summary × PatternCache}
    (new : name ∉ s.fieldResults.map Prod.fst) (low : reaches threshold s = false)
    (rest : Visits lookup record rules threshold (cache.checkNamed lookup record rules name).2
      (s.add name (cache.checkNamed lookup record rules name).1) visited skipped outcome) :
    Visits lookup record rules threshold cache s (name :: visited) skipped outcome where
  results := by
    rw [rest.results]
    show FieldResults.add name _ s.fieldResults ++ _ = _
    rw [FieldResults.add_of_notMem new, List.append_assoc]
    rfl
  after := rest.after
  skips := rest.skips
  total := rest.total
  errors := by
    rw [rest.errors, resultsInTurn, FieldResults.errorCount_cons, ← Nat.add_assoc]
    rfl
  flag := rest.flag
  below := by
    intro n bound positive
    cases n with
    | zero =>
      show (s.totalErrors + 0 : Int) < threshold
      rw [Int.add_zero]
      exact reaches_eq_false_iff.1 low positive
    | succ n =>
      have later := rest.below n (Nat.lt_of_succ_lt_succ bound) positive
      rw [resultsInTurn, List.take_succ_cons, FieldResults.errorCount_cons]
      rw [Summary.add] at later
      push_cast at later ⊢
      omega
  stopped := rest.stopped

/-- Fields that have no results yet are visited in order, up to the first one with which the errors reach the
threshold. -/
theorem exists_visits (lookup : Option ReferenceLookup) (record : FieldValues)
    (rules : List (Text × List Rule)) (cache : PatternCache) {names : List Text} (distinct : names.Nodup)
    (new : ∀ name ∈ names, name ∉ s.fieldResults.map Prod.fst) (unflagged : s.thresholdExceeded = false)
    (unskipped : s.skippedFields = []) (low : reaches threshold s = false) :
    ∃ visited skipped, names = visited ++ skipped ∧ Visits lookup record rules threshold cache s visited skipped
      (cache.checkFields lookup threshold record rules s names) := by
  -- On the fields that are left. That the summary has not reached the threshold before any of them, which `low`
  -- says, is what makes the visited ones the shortest prefix.
  induction names generalizing cache s with
  | nil =>
    refine ⟨[], [], rfl, ⟨(List.append_nil _).symm, rfl, unskipped, rfl, rfl, ?_, ?_, ?_⟩⟩
    · rw [checkFields, unflagged, low]
    · intro n bound
      cases bound
    · intro none
      exact absurd rfl none
  | cons name rest ih =>
    have absent := new name List.mem_cons_self
    rw [List.nodup_cons] at distinct
    rw [checkFields_cons, ← checkNamed]
    dsimp only
    by_cases reached : reaches threshold (s.add name (cache.checkNamed lookup record rules name).1) = true
    · -- This field is the last one visited, and the others are skipped.
      rw [if_pos reached]
      refine ⟨[name], rest, rfl, .cons absent low ⟨(List.append_nil _).symm, rfl, rfl, rfl, rfl, ?_, ?_, ?_⟩⟩
      · exact reached.symm
      · intro n bound
        cases bound
      · intro _
        exact reached
    · rw [if_neg reached]
      have stillNew : ∀ other ∈ rest, other ∉
          (s.add name (cache.checkNamed lookup record rules name).1).fieldResults.map Prod.fst := by
        intro other member
        show other ∉ (FieldResults.add name _ s.fieldResults).map Prod.fst
        rw [FieldResults.add_of_notMem absent, List.map_append, List.mem_append, not_or]
        refine ⟨new other (List.mem_cons_of_mem name member), ?_⟩
        rw [List.map_singleton, List.mem_singleton]
        rintro rfl
        exact distinct.1 member
      obtain ⟨visited, skipped, rfl, visits⟩ :=
        ih (cache.checkNamed lookup record rules name).2 distinct.2 stillNew unflagged unskipped
          (Bool.eq_false_iff.2 reached)
      exact ⟨name :: visited, skipped, rfl, .cons absent low visits⟩

/-- The fields of a record, and those besides that have rules, are visited up to the first one with which the
errors reach the threshold, or all of them when a threshold is not set or not reached. Each one visited has, under
its name, the results of checking its value with the cache as the fields in front of it left it, which is the
cache that there was when it was prepared; the others are skipped. The summary is flagged exactly when its errors
reach the threshold. -/
theorem checkRecord_visits (lookup : Option ReferenceLookup) (settings : ValidationSettings)
    (rules : List (Text × List Rule)) (cache : PatternCache) (record : FieldValues)
    (fields : (record.map Prod.fst).Nodup) (groups : (rules.map Prod.fst).Nodup) :
    let names := fieldNames record rules
    let outcome := cache.checkRecord lookup settings rules record
    let s := outcome.1
    names.Nodup ∧ s.totalFields = names.length ∧
    ∃ visited, names = visited ++ s.skippedFields ∧ s.fieldResults.map Prod.fst = visited ∧
      (∀ front name rest, visited = front ++ name :: rest →
        s.resultsOf name = ((cache.afterFields lookup record rules front).checkField lookup name
          (record.lookup name).join ((rules.lookup name).getD [])).1) ∧
      outcome.2 = cache.afterFields lookup record rules visited ∧
      (cache.Prepared (rules.flatMap Prod.snd) →
        ∀ front, cache.afterFields lookup record rules front = cache) ∧
      s.totalErrors = s.fieldResults.errorCount ∧
      (settings.threshold ≤ 0 → s.skippedFields = [] ∧ s.thresholdExceeded = false) ∧
      (0 < settings.threshold →
        (s.thresholdExceeded = true ↔ settings.threshold ≤ s.fieldResults.errorCount) ∧
        (∀ n < visited.length, FieldResults.errorCount (s.fieldResults.take n) < settings.threshold) ∧
        (s.skippedFields ≠ [] → settings.threshold ≤ s.fieldResults.errorCount)) := by
  intro names outcome s
  have distinct : names.Nodup := nodup_fieldNames record rules fields groups
  have low : reaches settings.threshold
      (.blank names.length settings.batchId settings.validatedAt) = false :=
    reaches_eq_false_iff.2 id
  obtain ⟨visited, skipped, split, visits⟩ :=
    exists_visits lookup record rules cache distinct (fun _ _ => List.not_mem_nil) rfl rfl low
  have results : s.fieldResults = cache.resultsInTurn lookup record rules visited := visits.results
  have errors : s.totalErrors = s.fieldResults.errorCount := by
    rw [results]
    exact visits.errors.trans (Nat.zero_add _)
  have flag : s.thresholdExceeded = reaches settings.threshold s := visits.flag
  have skips : s.skippedFields = skipped := visits.skips
  have stopped : skipped ≠ [] → reaches settings.threshold s = true := visits.stopped
  refine ⟨distinct, visits.total, visited, ?_, ?_, ?_, visits.after, ?_, errors, ?_, ?_⟩
  · rw [skips]
    exact split
  · rw [results, fields_resultsInTurn]
  · rintro front name rest rfl
    -- No field comes twice, so what is under the name are the results of this visit.
    have first : name ∉ front := by
      rw [split, List.append_assoc] at distinct
      exact fun member => (List.nodup_append.1 distinct).2.2 name member name List.mem_cons_self rfl
    rw [Summary.resultsOf, results, lookup_resultsInTurn first, Option.getD_some]
    rfl
  · intro ready front
    exact ready.afterFields front
  · intro unlimited
    have unreached : reaches settings.threshold s = false := reaches_eq_false_iff.2 fun _ => by omega
    refine ⟨?_, flag.trans unreached⟩
    rw [skips]
    by_contra some
    rw [stopped some] at unreached
    cases unreached
  · intro positive
    have reaches_iff : reaches settings.threshold s = true ↔ settings.threshold ≤ s.fieldResults.errorCount := by
      rw [reaches, Bool.and_eq_true, decide_eq_true_eq, decide_eq_true_eq, errors]
      exact and_iff_right positive
    refine ⟨flag ▸ reaches_iff, ?_, fun some => reaches_iff.1 (stopped (skips ▸ some))⟩
    intro n bound
    have low := visits.below n bound positive
    rw [results]
    simpa [Summary.blank] using low

/-- One error in the first field and one in a field that the record does not have: the threshold of two is reached
with the third of four fields, and the last one is skipped. -/
theorem checkRecord_visits_absentField :
    let needed : Rule := { patternRule "N" "CITY" [] 1 with kind := .required, required := true }
    let rules : List (Text × List Rule) :=
      [("CITY", [needed]), ("CODE", [patternRule "D" "CODE" "[0-9]+" 1]), ("ZONE", [needed])]
    let record : FieldValues := [("CODE", some "x"), ("NOTE", some "free")]
    let s := (empty.checkRecord none ⟨2, none, 0⟩ rules record).1
    (record.map Prod.fst).Nodup ∧ (rules.map Prod.fst).Nodup ∧
      s.fieldResults.map Prod.fst = ["CODE".toList, "NOTE".toList, "CITY".toList] ∧
      s.skippedFields = ["ZONE".toList] ∧ s.totalFields = 4 ∧
      FieldResults.errorCount (s.fieldResults.take 2) < (2 : Int) ∧ s.thresholdExceeded = true := by
  intro needed rules record s
  have fields : (record.map Prod.fst).Nodup := by decide
  have groups : (rules.map Prod.fst).Nodup := by decide
  have skipped : s.skippedFields = ["ZONE".toList] := by decide +kernel
  have errors : s.fieldResults.errorCount = 2 := by decide +kernel
  obtain ⟨-, total, visited, split, names, -, -, -, -, -, limited⟩ :=
    checkRecord_visits none ⟨2, none, 0⟩ rules empty record fields groups
  obtain ⟨flag, below, -⟩ := limited (by decide)
  have three : visited = ["CODE".toList, "NOTE".toList, "CITY".toList] := by
    rw [skipped] at split
    exact List.append_cancel_right split.symm
  refine ⟨fields, groups, names.trans three, skipped, total, below 2 ?_, flag.2 ?_⟩
  · rw [three]
    decide
  · rw [errors]
    decide

end PatternCache
end FixedExtract
