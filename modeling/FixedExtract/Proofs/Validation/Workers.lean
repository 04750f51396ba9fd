import FixedExtract.Proofs.Traversal
import FixedExtract.Proofs.Validation.Prepared
import FixedExtract.Validation.Workers
import Mathlib.Algebra.BigOperators.Group.List.Basic
import Mathlib.Data.Nat.Cast.Basic
import Mathlib.Logic.Relation
/-!
# Batches that are validated by several workers

Workers that share a prepared cache cannot get in each other's way: no check writes to the cache, so every check
comes out as if its record were the only one. Whatever turns the workers take, and however many there are, the
batch is done after finitely many of them, and the summaries are those that the records have by themselves.
-/

namespace FixedExtract

/-! ## Summaries apart from their stamps -/

namespace Summary

/-- The summary without its batch and its moment of validation. -/
def unstamped (s : Summary) : Summary := s.restamp none 0

theorem unstamped_restamp (s : Summary) (batchId : Option Text) (moment : Int) :
    (s.restamp batchId moment).unstamped = s.unstamped := rfl

theorem restamp_eq_of_unstamped {a b : Summary} (h : a.unstamped = b.unstamped)
    (batchId : Option Text) (moment : Int) : a.restamp batchId moment = b.restamp batchId moment := by
  have stamped := congrArg (fun s => s.restamp batchId moment) h
  exact stamped

theorem unstamped_merge (a b : Summary) :
    (a.merge b).unstamped = a.unstamped.merge b.unstamped := rfl

theorem unstamped_mergeAll (moment : Int) (parts : List Summary) :
    (mergeAll moment parts).unstamped = mergeAll 0 (parts.map unstamped) := by
  have merged : ∀ s : Summary,
      (parts.foldl merge s).unstamped = (parts.map unstamped).foldl merge s.unstamped := by
    induction parts with
    | nil => exact fun s => rfl
    | cons part rest ih =>
      intro s
      rw [List.foldl_cons, ih, unstamped_merge, List.map_cons, List.foldl_cons]
  exact merged (blank 0 none moment)

end Summary

/-! ## One validation -/

namespace Progress

section
variable (lookup : Option ReferenceLookup) (threshold : Int) (rules : List (Text × List Rule))
  (record : FieldValues) (cache : PatternCache)

/-- The rules that the field at hand is still to be checked against. -/
def pending : Progress → List Rule
  | .within _ _ _ pending _ => pending
  | _ => []

/-- The summary that the validation comes to by itself, once a field has all its results. -/
def finish (s : Summary) (name : Text) (results : List FieldResult) (names : List Text) : Summary :=
  let s := s.add name results
  if PatternCache.reaches threshold s then
    { s with thresholdExceeded := true, skippedFields := names }
  else (cache.checkFields lookup threshold record rules s names).1

/-- The summary that the validation comes to when it goes on by itself. -/
def outcome : Progress → Summary
  | .between s names => (cache.checkFields lookup threshold record rules s names).1
  | .within s name results pending names =>
    finish lookup threshold rules record cache s name
      (results ++ (cache.checkInOrder lookup name (record.lookup name).join pending).1) names
  | .done s => s

theorem outcome_close (s : Summary) (name : Text) (results : List FieldResult) (names : List Text) :
    (close threshold s name results names).outcome lookup threshold rules record cache =
      finish lookup threshold rules record cache s name results names := by
  unfold close finish
  by_cases reached : PatternCache.reaches threshold (s.add name results) = true
  · rw [if_pos reached, if_pos reached]
    rfl
  · rw [if_neg reached, if_neg reached]
    rfl

theorem pending_close (s : Summary) (name : Text) (results : List FieldResult) (names : List Text) :
    (close threshold s name results names).pending = [] := by
  unfold close
  by_cases reached : PatternCache.reaches threshold (s.add name results) = true
  · rw [if_pos reached]
    rfl
  · rw [if_neg reached]
    rfl

/-- What one step of a validation keeps: the cache, the summary to come, and that the rules ahead are among
those of the batch. -/
structure Kept (next : Progress × PatternCache) (p : Progress) : Prop where
  sameCache : next.2 = cache
  sameOutcome : next.1.outcome lookup threshold rules record cache =
    p.outcome lookup threshold rules record cache
  ahead : ∀ rule ∈ next.1.pending, rule ∈ rules.flatMap Prod.snd

variable {lookup threshold rules record cache}

theorem kept_close {p : Progress} {s : Summary} {name : Text} {results : List FieldResult}
    {names : List Text}
    (same : finish lookup threshold rules record cache s name results names =
      p.outcome lookup threshold rules record cache) :
    Kept lookup threshold rules record cache (close threshold s name results names, cache) p := by
  refine ⟨rfl, (outcome_close ..).trans same, ?_⟩
  intro rule hr
  rw [pending_close] at hr
  cases hr

variable (ready : cache.Prepared (rules.flatMap Prod.snd))
include ready

/-- The next field is checked, and its results decide whether there are others. -/
theorem outcome_between_cons (s : Summary) (name : Text) (names : List Text) :
    (Progress.between s (name :: names)).outcome lookup threshold rules record cache =
      finish lookup threshold rules record cache s name
        (cache.checkField lookup name (record.lookup name).join ((rules.lookup name).getD [])).1
        names := by
  have field : (cache.checkField lookup name (record.lookup name).join
      ((rules.lookup name).getD [])).2 = cache :=
    PatternCache.Prepared.checkField lookup (ready.mono (PatternCache.mem_rules_of_lookup name)) name _
  simp only [outcome, PatternCache.checkFields_cons, field, finish]
  split <;> rfl

/-- A check against a rule of the batch leaves the cache as it is. -/
theorem sameCache_check {rule : Rule} (known : rule ∈ rules.flatMap Prod.snd) (name : Text)
    (value : Option Text) : (cache.check lookup rule name value).2 = cache := by
  have alone : ∀ other ∈ [rule], other ∈ rules.flatMap Prod.snd := by
    intro other ho
    rw [List.mem_singleton.1 ho]
    exact known
  exact PatternCache.Prepared.check lookup (ready.mono alone) name value

/-- The next rule is checked, and its result decides whether there are others. -/
theorem checkInOrder_cons {rule : Rule} (known : rule ∈ rules.flatMap Prod.snd) (pending : List Rule)
    (name : Text) (value : Option Text) :
    (cache.checkInOrder lookup name value (rule :: pending)).1 =
      let result := (cache.check lookup rule name value).1
      if !result.valid && rule.isCritical then [result]
      else result :: (cache.checkInOrder lookup name value pending).1 := by
  have here : (cache.check lookup rule name value).2 = cache := sameCache_check ready known name value
  simp only [PatternCache.checkInOrder, here]
  split <;> rfl

/-- A step on a prepared cache changes neither the cache nor what comes of the validation. -/
theorem kept_step (p : Progress) (known : ∀ rule ∈ p.pending, rule ∈ rules.flatMap Prod.snd) :
    Kept lookup threshold rules record cache (p.step lookup threshold rules record cache) p := by
  cases p with
  | done s => exact ⟨rfl, rfl, known⟩
  | between s names =>
    cases names with
    | nil => exact ⟨rfl, rfl, known⟩
    | cons name names =>
      have unfolded :
          (Progress.between s (name :: names)).outcome lookup threshold rules record cache = _ :=
        outcome_between_cons ready s name names
      rw [PatternCache.checkField] at unfolded
      have active : ∀ rule ∈ Rule.sort (((rules.lookup name).getD []).filter Rule.enabled),
          rule ∈ rules.flatMap Prod.snd := fun rule hr =>
        PatternCache.mem_rules_of_lookup name rule (PatternCache.mem_of_mem_active rule hr)
      rw [step]
      cases sorted : Rule.sort (((rules.lookup name).getD []).filter Rule.enabled) with
      | nil =>
        rw [sorted] at unfolded
        exact kept_close unfolded.symm
      | cons rule rest =>
        rw [sorted] at unfolded active
        exact ⟨rfl, unfolded.symm, active⟩
  | within s name results pending names =>
    cases pending with
    | nil => exact kept_close (by rw [outcome, PatternCache.checkInOrder, List.append_nil])
    | cons rule pending =>
      have ofBatch : rule ∈ rules.flatMap Prod.snd := known rule List.mem_cons_self
      have here : (cache.check lookup rule name (record.lookup name).join).2 = cache :=
        sameCache_check ready ofBatch name _
      have first : (cache.checkInOrder lookup name (record.lookup name).join (rule :: pending)).1 = _ :=
        checkInOrder_cons ready ofBatch pending name _
      dsimp only at first
      rw [step]
      dsimp only
      rw [here]
      by_cases stops : (!(cache.check lookup rule name (record.lookup name).join).1.valid &&
          rule.isCritical) = true
      · rw [if_pos stops] at first ⊢
        exact kept_close (by rw [outcome, first])
      · rw [if_neg stops] at first ⊢
        refine ⟨rfl, ?_, fun other ho => known other (List.mem_cons_of_mem rule ho)⟩
        rw [outcome, outcome, first, List.append_assoc, List.singleton_append]

end

/-! ## Steps to come -/

section
variable (rules : List (Text × List Rule))

/-- A bound on the steps that the fields take. -/
def fieldWork (names : List Text) : Nat :=
  (names.map fun name => ((rules.lookup name).getD []).length + 2).sum

/-- A bound on the steps that are left of a validation. -/
def work : Progress → Nat
  | .between _ names => fieldWork rules names + 1
  | .within _ _ _ pending names => pending.length + fieldWork rules names + 2
  | .done _ => 0

theorem work_between (s : Summary) (names : List Text) :
    (Progress.between s names).work rules = fieldWork rules names + 1 := rfl

theorem work_within (s : Summary) (name : Text) (results : List FieldResult) (pending : List Rule)
    (names : List Text) : (Progress.within s name results pending names).work rules =
      pending.length + fieldWork rules names + 2 := rfl

theorem work_close (threshold : Int) (s : Summary) (name : Text) (results : List FieldResult)
    (names : List Text) :
    (close threshold s name results names).work rules ≤ fieldWork rules names + 1 := by
  unfold close
  by_cases reached : PatternCache.reaches threshold (s.add name results) = true
  · rw [if_pos reached]
    exact Nat.zero_le _
  · rw [if_neg reached]
    exact Nat.le_refl _

/-- Every step brings a validation nearer to its end. -/
theorem work_step (lookup : Option ReferenceLookup) (threshold : Int) (record : FieldValues)
    (cache : PatternCache) {p : Progress} (undone : p.summary? = none) :
    (p.step lookup threshold rules record cache).1.work rules < p.work rules := by
  cases p with
  | done s => cases undone
  | between s names =>
    cases names with
    | nil => exact Nat.succ_pos _
    | cons name names =>
      have active : (Rule.sort (((rules.lookup name).getD []).filter Rule.enabled)).length ≤
          ((rules.lookup name).getD []).length := by
        rw [Rule.sort, List.length_mergeSort]
        exact List.length_filter_le _ _
      have split : fieldWork rules (name :: names) =
          ((rules.lookup name).getD []).length + 2 + fieldWork rules names := by
        rw [fieldWork, List.map_cons, List.sum_cons, fieldWork]
      -- To take a field up costs one step, to close it another, and each of its rules one between.
      rw [step, work_between, split]
      cases sorted : Rule.sort (((rules.lookup name).getD []).filter Rule.enabled) with
      | nil =>
        have := work_close rules threshold s name [.success name (record.lookup name).join none] names
        dsimp only
        omega
      | cons rule rest =>
        rw [sorted] at active
        dsimp only
        rw [work_within]
        omega
  | within s name results pending names =>
    rw [work_within]
    cases pending with
    | nil =>
      have := work_close rules threshold s name results names
      rw [step, List.length_nil]
      dsimp only
      omega
    | cons rule pending =>
      have := work_close rules threshold s name
        (results ++ [(cache.check lookup rule name (record.lookup name).join).1]) names
      rw [step, List.length_cons]
      dsimp only
      split
      · dsimp only
        omega
      · dsimp only
        rw [work_within]
        omega

end
end Progress

/-! ## The whole batch -/

namespace Pool

variable (lookup : Option ReferenceLookup) (settings : ValidationSettings)
  (rules : List (Text × List Rule)) (workers : Nat)

/-- One batch leads to another by any number of steps. -/
abbrev Reaches : Pool → Pool → Prop := Relation.ReflTransGen (Step lookup settings rules workers)

/-- The job is that of the record, and comes to the summary that the record has by itself. -/
def Serves (cache : PatternCache) (record : FieldValues) : Job → Prop
  | .waiting own => own = record
  | .started own progress => own = record ∧
    (∀ rule ∈ progress.pending, rule ∈ rules.flatMap Prod.snd) ∧
    (progress.outcome lookup settings.threshold rules record cache).unstamped =
      (cache.checkRecord lookup settings rules record).1.unstamped

/-- The cache is still the one given, and every job serves its record. -/
structure Faithful (cache : PatternCache) (records : List FieldValues) (pool : Pool) : Prop where
  sameCache : pool.cache = cache
  jobs : List.Forall₂ (Serves lookup settings rules cache) records pool.jobs

variable {lookup settings rules workers} {cache : PatternCache} {records : List FieldValues}

theorem faithful_waiting : Faithful lookup settings rules cache records (waiting cache records) := by
  refine ⟨rfl, ?_⟩
  rw [waiting, List.forall₂_map_right_iff]
  exact List.forall₂_same.2 fun record _ => rfl

/-- No step makes a batch unfaithful. -/
theorem Faithful.step (ready : cache.Prepared (rules.flatMap Prod.snd)) {pool next : Pool}
    (faithful : Faithful lookup settings rules cache records pool)
    (h : Step lookup settings rules workers pool next) :
    Faithful lookup settings rules cache records next := by
  cases h with
  | takeUp own moment free =>
    refine ⟨faithful.sameCache, forall₂_replace faithful.jobs ?_⟩
    rintro record rfl
    refine ⟨rfl, fun rule hr => absurd hr List.not_mem_nil, ?_⟩
    -- The moment at which a record is taken up is stamped on its summary and has no other part in it.
    have stamped := PatternCache.checkRecord_restamp lookup settings.threshold own rules cache
      settings.batchId settings.batchId settings.validatedAt moment
    exact (congrArg Summary.unstamped stamped).trans (Summary.unstamped_restamp ..)
  | goOn own progress undone =>
    obtain ⟨rfl, jobs⟩ := faithful
    refine ⟨?_, forall₂_replace jobs ?_⟩
    · -- The cache stays as it is because the rules ahead are among those that it is prepared for.
      obtain ⟨record, hr⟩ := exists_of_forall₂_middle jobs
      obtain ⟨rfl, known, -⟩ := hr
      exact (Progress.kept_step ready progress known).sameCache
    · rintro record ⟨rfl, known, outcome⟩
      have kept : Progress.Kept lookup settings.threshold rules own _ _ progress :=
        Progress.kept_step ready progress known
      exact ⟨rfl, kept.ahead, (congrArg Summary.unstamped kept.sameOutcome).trans outcome⟩

theorem Faithful.reaches (ready : cache.Prepared (rules.flatMap Prod.snd)) {pool next : Pool}
    (faithful : Faithful lookup settings rules cache records pool)
    (h : Reaches lookup settings rules workers pool next) :
    Faithful lookup settings rules cache records next := by
  induction h with
  | refl => exact faithful
  | tail _ step ih => exact ih.step ready step

/-- The summary of a job that is done is the one that its record has by itself. -/
theorem Serves.summary {record : FieldValues} {job : Job} {s : Summary}
    (serves : Serves lookup settings rules cache record job) (h : job.summary? = some s) :
    s.unstamped = (cache.checkRecord lookup settings rules record).1.unstamped := by
  cases job with
  | waiting own => cases h
  | started own progress =>
    obtain ⟨rfl, -, outcome⟩ := serves
    cases progress with
    | done own =>
      cases h
      exact outcome
    | between _ _ => cases h
    | within _ _ _ _ _ => cases h

/-- The summaries of a faithful batch that is finished are those of its records. -/
theorem Faithful.parts {pool : Pool} (faithful : Faithful lookup settings rules cache records pool)
    {parts : List Summary} (finished : pool.Finished parts) :
    parts.map Summary.unstamped = records.map fun record =>
      (cache.checkRecord lookup settings rules record).1.unstamped := by
  obtain ⟨own, jobs⟩ := pool
  obtain ⟨-, served⟩ := faithful
  rw [Finished] at finished
  dsimp only at served finished
  induction served generalizing parts with
  | nil =>
    rw [List.map_eq_nil_iff.1 finished.symm]
    rfl
  | cons serves _ ih =>
    cases parts with
    | nil => cases finished
    | cons s parts =>
      obtain ⟨here, others⟩ := List.cons.inj finished
      rw [List.map_cons, List.map_cons, serves.summary here, ih others]

/-! ## Runs come to an end -/

/-- A bound on the steps that are left of a batch. -/
def work (settings : ValidationSettings) (rules : List (Text × List Rule)) (pool : Pool) : Nat :=
  (pool.jobs.map fun
    | .waiting record => (Progress.start settings rules record).work rules + 1
    | .started _ progress => progress.work rules).sum

theorem work_lt_of_step {pool next : Pool} (h : Step lookup settings rules workers pool next) :
    next.work settings rules < pool.work settings rules := by
  cases h with
  | takeUp record moment free =>
    have same : (Progress.start { settings with validatedAt := moment } rules record).work rules =
        (Progress.start settings rules record).work rules := rfl
    simp only [work, List.map_append, List.map_cons, List.sum_append, List.sum_cons, same]
    omega
  | @goOn cache before after record progress undone =>
    have := Progress.work_step rules lookup settings.threshold record cache undone
    simp only [work, List.map_append, List.map_cons, List.sum_append, List.sum_cons]
    omega

/-- No batch can go on forever. -/
theorem wellFounded_step :
    WellFounded fun next pool => Step lookup settings rules workers pool next :=
  Subrelation.wf (fun h => work_lt_of_step h) (measure (work settings rules)).wf

/-- A batch that is not finished has a job that is not done. -/
theorem exists_undone {pool : Pool} (unfinished : ∀ parts, ¬pool.Finished parts) :
    ∃ job ∈ pool.jobs, job.summary? = none := by
  by_contra all
  push Not at all
  apply unfinished (pool.jobs.filterMap Job.summary?)
  rw [Finished, List.map_filterMap]
  generalize pool.jobs = jobs at all
  induction jobs with
  | nil => rfl
  | cons job rest ih =>
    obtain ⟨s, hs⟩ := Option.ne_none_iff_exists'.1 (all job List.mem_cons_self)
    have others := ih fun j hj => all j (List.mem_cons_of_mem job hj)
    rw [List.map_cons, List.filterMap_cons, hs, others]
    rfl

theorem exists_goOn {cache : PatternCache} {jobs : List Job} {job : Job} (hj : job ∈ jobs)
    (busy : job.isBusy = true) : ∃ next, Step lookup settings rules workers ⟨cache, jobs⟩ next := by
  obtain ⟨before, after, rfl⟩ := List.append_of_mem hj
  cases job with
  | waiting record => cases busy
  | started record progress => exact ⟨_, .goOn record progress (Option.isNone_iff_eq_none.1 busy)⟩

/-- As long as some record is not validated, something can happen next. -/
theorem exists_step (someWorker : 0 < workers) {pool : Pool} (unfinished : ∀ parts, ¬pool.Finished parts) :
    ∃ next, Step lookup settings rules workers pool next := by
  obtain ⟨job, hj, undone⟩ := exists_undone unfinished
  obtain ⟨cache, jobs⟩ := pool
  -- Either some worker is busy and goes on, or all of them are free and one takes up the record.
  by_cases anyBusy : ∃ other ∈ jobs, other.isBusy = true
  · obtain ⟨other, ho, busy⟩ := anyBusy
    exact exists_goOn ho busy
  · cases job with
    | started record progress =>
      exact absurd ⟨_, hj, Option.isNone_iff_eq_none.2 undone⟩ anyBusy
    | waiting record =>
      obtain ⟨before, after, rfl⟩ := List.append_of_mem hj
      have idle : (before ++ after).countP Job.isBusy = 0 := by
        rw [List.countP_eq_zero]
        intro other ho busy
        refine anyBusy ⟨other, ?_, busy⟩
        rw [List.mem_append] at ho ⊢
        exact ho.imp_right (List.mem_cons_of_mem _)
      exact ⟨_, .takeUp record settings.validatedAt (by omega)⟩

theorem size_pos (maxWorkers : Int) : 0 < size maxWorkers := by
  unfold size
  split <;> omega

/-- Once the patterns of all rules are read, be their identifiers repeated or not, validating a record never
changes the cache, neither its patterns nor what it has noted as malformed. So the batch has the summary that
merges, in the order of the records, those that they have by themselves on the cache that was prepared. Any
number of workers comes to the same, its moment of validation apart, whatever turns they take: the cache stays
as it is all the time, somebody can go on until all records are validated, and nobody can go on forever. -/
theorem checkRecords_reaches (lookup : Option ReferenceLookup) (settings : ValidationSettings)
    (rules : List (Text × List Rule)) (cache : PatternCache) (records : List FieldValues)
    (maxWorkers : Int) (prepared : (cache.prepare (rules.flatMap Prod.snd)).1 = none) :
    let ready := (cache.prepare (rules.flatMap Prod.snd)).2
    let alone := records.map fun record => (ready.checkRecord lookup settings rules record).1
    let batch := waiting ready records
    (∀ record, (ready.checkRecord lookup settings rules record).2 = ready) ∧
    cache.checkRecords lookup settings rules records =
      (.ok { Summary.mergeAll settings.validatedAt alone with batchId := settings.batchId }, ready) ∧
    (∀ pool, Reaches lookup settings rules (size maxWorkers) batch pool →
      pool.cache = ready ∧
      (∀ parts, pool.Finished parts → ∀ moment,
        (Summary.mergeAll moment parts).restamp settings.batchId settings.validatedAt =
          (Summary.mergeAll settings.validatedAt alone).restamp settings.batchId
            settings.validatedAt) ∧
      ((∀ parts, ¬pool.Finished parts) →
        ∃ next, Step lookup settings rules (size maxWorkers) pool next)) ∧
    WellFounded fun next pool => Step lookup settings rules (size maxWorkers) pool next := by
  intro ready alone batch
  have known : ready.Prepared (rules.flatMap Prod.snd) := PatternCache.prepared_prepare prepared
  refine ⟨known.checkRecord lookup settings, ?_, ?_, wellFounded_step⟩
  · rw [PatternCache.checkRecords]
    have split : cache.prepare (rules.flatMap Prod.snd) = (none, ready) := Prod.ext prepared rfl
    rw [split]
    dsimp only
    rw [known.checkEach lookup settings records]
  · intro pool reached
    have faithful := faithful_waiting.reaches known reached
    refine ⟨faithful.sameCache, ?_, exists_step (size_pos maxWorkers)⟩
    intro parts finished moment
    apply Summary.restamp_eq_of_unstamped
    rw [Summary.unstamped_mergeAll, Summary.unstamped_mergeAll, faithful.parts finished, List.map_map]
    rfl

/-- One identifier has two patterns, one of which is malformed. Three workers leave the cache as it was
prepared, with the last pattern of the identifier that can be read and with its fault. -/
theorem checkRecords_reaches_repeatedIdentifier :
    let rules : List (Text × List Rule) :=
      [("CODE", [PatternCache.patternRule "R" "CODE" "[a-z]+" 1]),
        ("COUNT", [PatternCache.patternRule "R" "COUNT" "(" 1,
          PatternCache.patternRule "R" "COUNT" "[0-9]+" 2])]
    let records : List FieldValues := [[("CODE", some "ab")], [("COUNT", some "x")], []]
    let cache := PatternCache.empty.prepare (rules.flatMap Prod.snd)
    cache.1 = none ∧ cache.2.malformed = ["R".toList] ∧
      (cache.2.find? "R").map CachedPattern.source = some "[0-9]+".toList ∧
      ∀ pool, Reaches none ⟨1, none, 0⟩ rules (size 3) (waiting cache.2 records) pool →
        pool.cache = cache.2 := by
  intro rules records cache
  have prepared : cache.1 = none := by decide +kernel
  obtain ⟨-, -, runs, -⟩ := checkRecords_reaches none ⟨1, none, 0⟩ rules .empty records 3 prepared
  refine ⟨prepared, by decide +kernel, by decide +kernel, ?_⟩
  intro pool reached
  exact (runs pool reached).1

end Pool
end FixedExtract
