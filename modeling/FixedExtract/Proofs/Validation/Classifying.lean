import FixedExtract.Proofs.Validation.Counting
/-!
# How summaries sort results

A result is an error when it is not valid, and a warning when it is valid and carries one. The counts, the lists of
all errors and warnings and the list of the fields with errors agree on that, whatever has been added and merged. Only
the list of the fields with warnings asks for the warning alone: it names a field too whose only warning is carried by
a result that is not valid.
-/

namespace FixedExtract

/-! ## What is found under a field -/

namespace FieldResults

variable {all : FieldResults} {field name : Text} {results : List FieldResult} {r : FieldResult}

/-- The results of a field, none if the field is not there. -/
def resultsOf (all : FieldResults) (field : Text) : List FieldResult := (all.lookup field).getD []

theorem resultsOf_cons (name : Text) (results : List FieldResult) (all : FieldResults) (field : Text) :
    resultsOf ((name, results) :: all) field = if field = name then results else resultsOf all field := by
  rw [resultsOf, List.lookup_cons]
  by_cases same : field = name
  · rw [if_pos same, same, beq_self_eq_true]
    rfl
  · rw [if_neg same, beq_false_of_ne same]
    rfl

theorem resultsOf_eq_nil (absent : field ∉ all.map Prod.fst) : resultsOf all field = [] := by
  induction all with
  | nil => rfl
  | cons entry rest ih =>
    rw [List.map_cons, List.mem_cons, not_or] at absent
    rw [resultsOf_cons, if_neg absent.1, ih absent.2]

/-- Results are added behind those of their field. -/
theorem resultsOf_add (field : Text) (results : List FieldResult) (all : FieldResults) (name : Text) :
    resultsOf (add field results all) name = resultsOf all name ++ if name = field then results else [] := by
  induction all with
  | nil =>
    rw [add, resultsOf_cons]
    rfl
  | cons entry rest ih =>
    obtain ⟨key, before⟩ := entry
    rw [add]
    by_cases here : key = field
    · rw [if_pos here, resultsOf_cons, resultsOf_cons, here]
      by_cases same : name = field
      · rw [if_pos same, if_pos same, if_pos same]
      · rw [if_neg same, if_neg same, if_neg same, List.append_nil]
    · rw [if_neg here, resultsOf_cons, resultsOf_cons, ih]
      by_cases same : name = key
      · rw [if_pos same, if_pos same, if_neg (same ▸ here), List.append_nil]
      · rw [if_neg same, if_neg same]

/-- In a merger the results of a field are those of both sides, the first side in front. -/
theorem resultsOf_merge (a : FieldResults) {b : FieldResults} (distinct : b.Distinct) (name : Text) :
    resultsOf (merge a b) name = resultsOf a name ++ resultsOf b name := by
  induction b generalizing a with
  | nil => exact (List.append_nil _).symm
  | cons entry rest ih =>
    obtain ⟨field, results⟩ := entry
    rw [Distinct, List.map_cons, List.nodup_cons] at distinct
    show resultsOf (merge (add field results a) rest) name = _
    rw [ih _ distinct.2, resultsOf_add, resultsOf_cons, List.append_assoc]
    by_cases same : name = field
    · -- The field comes once on the right, so nothing more is added to it.
      have absent : resultsOf rest name = [] := resultsOf_eq_nil (same ▸ distinct.1)
      rw [if_pos same, if_pos same, absent, List.append_nil]
    · rw [if_neg same, if_neg same, List.nil_append]

/-- What stands beside a name is what is found under it, since no name comes twice. -/
theorem Distinct.resultsOf_eq (distinct : all.Distinct) (entry : (field, results) ∈ all) :
    resultsOf all field = results := by
  induction all with
  | nil => cases entry
  | cons first rest ih =>
    obtain ⟨name, before⟩ := first
    rw [Distinct, List.map_cons, List.nodup_cons] at distinct
    rw [resultsOf_cons]
    rcases List.mem_cons.1 entry with same | later
    · cases same
      exact if_pos rfl
    · have other : field ≠ name := by
        rintro rfl
        exact distinct.1 (List.mem_map.2 ⟨_, later, rfl⟩)
      rw [if_neg other]
      exact ih distinct.2 later

theorem mem_of_mem_resultsOf (h : r ∈ resultsOf all field) : (field, resultsOf all field) ∈ all := by
  induction all with
  | nil => cases h
  | cons entry rest ih =>
    obtain ⟨name, before⟩ := entry
    rw [resultsOf_cons] at h ⊢
    by_cases same : field = name
    · rw [if_pos same, same]
      exact List.mem_cons_self
    · rw [if_neg same] at h ⊢
      exact List.mem_cons_of_mem _ (ih h)

/-- A field is listed for a kind of results exactly when one of them is found under it. -/
theorem mem_fieldsWith_iff (distinct : all.Distinct) (p : FieldResult → Bool) (field : Text) :
    field ∈ (all.filter fun entry => entry.2.any p).map Prod.fst ↔ ∃ r ∈ resultsOf all field, p r = true := by
  rw [List.mem_map]
  constructor
  · rintro ⟨⟨_, results⟩, listed, rfl⟩
    obtain ⟨entry, some⟩ := List.mem_filter.1 listed
    rw [distinct.resultsOf_eq entry]
    exact List.any_eq_true.1 some
  · rintro ⟨r, hr, kind⟩
    refine ⟨(field, resultsOf all field), List.mem_filter.2 ⟨mem_of_mem_resultsOf hr, ?_⟩, rfl⟩
    exact List.any_eq_true.2 ⟨r, hr, kind⟩

theorem mem_stored_iff (distinct : all.Distinct) : r ∈ all.stored ↔ ∃ field, r ∈ resultsOf all field := by
  rw [stored, List.mem_flatMap]
  constructor
  · rintro ⟨⟨field, results⟩, entry, hr⟩
    refine ⟨field, ?_⟩
    rwa [distinct.resultsOf_eq entry]
  · rintro ⟨field, hr⟩
    exact ⟨(field, resultsOf all field), mem_of_mem_resultsOf hr, hr⟩

end FieldResults

namespace Summary

/-! ## Histories of summaries -/

/-- The summary comes from ones without results, whatever else these say, by adding results and by merging. These
results have been added to it or to its parts, each to its field. -/
inductive Assembled : List (Text × FieldResult) → Summary → Prop where
  | start {s : Summary} : s.fieldResults = [] → s.totalErrors = 0 → s.totalWarnings = 0 → s.errorFieldCount = 0 →
      Assembled [] s
  | add {added : List (Text × FieldResult)} {s : Summary} (before : Assembled added s) (field : Text)
      (results : List FieldResult) : Assembled (added ++ results.map (field, ·)) (s.add field results)
  | merge {added others : List (Text × FieldResult)} {a b : Summary} (left : Assembled added a)
      (right : Assembled others b) : Assembled (added ++ others) (a.merge b)

/-- The results that have been added to this field, in order. -/
def addedTo (field : Text) (added : List (Text × FieldResult)) : List FieldResult :=
  added.filterMap fun entry => if entry.1 = field then some entry.2 else none

variable {added : List (Text × FieldResult)} {s : Summary} {field : Text} {r : FieldResult}

theorem addedTo_map (field name : Text) (results : List FieldResult) :
    addedTo name (results.map (field, ·)) = if name = field then results else [] := by
  rw [addedTo, List.filterMap_map]
  by_cases same : name = field
  · have every : ((fun entry : Text × FieldResult => if entry.1 = name then some entry.2 else none) ∘ (field, ·)) =
        some := funext fun r => if_pos same.symm
    rw [every, List.filterMap_some, if_pos same]
  · have none : ((fun entry : Text × FieldResult => if entry.1 = name then some entry.2 else none) ∘ (field, ·)) =
        fun _ => none := funext fun r => if_neg (Ne.symm same)
    rw [none, if_neg same]
    exact List.filterMap_eq_nil_iff.2 fun _ _ => rfl

theorem mem_addedTo_iff : r ∈ addedTo field added ↔ (field, r) ∈ added := by
  rw [addedTo, List.mem_filterMap]
  constructor
  · rintro ⟨⟨name, _⟩, entry, chosen⟩
    by_cases same : name = field
    · rw [if_pos same] at chosen
      cases chosen
      rwa [← same]
    · rw [if_neg same] at chosen
      cases chosen
  · intro entry
    exact ⟨(field, r), entry, if_pos rfl⟩

/-- What every history keeps: the counts are those of the stored results, no field is stored twice, and under each
field are the results that have been added to it. -/
structure Kept (added : List (Text × FieldResult)) (s : Summary) : Prop where
  tallied : s.Tallied
  distinct : s.fieldResults.Distinct
  resultsOf : ∀ field, s.resultsOf field = addedTo field added

theorem Kept.add (h : Kept added s) (field : Text) (results : List FieldResult) :
    Kept (added ++ results.map (field, ·)) (s.add field results) where
  tallied := h.tallied.add field results
  distinct := h.distinct.add field results
  resultsOf := by
    intro name
    show (FieldResults.add field results s.fieldResults).resultsOf name = _
    rw [FieldResults.resultsOf_add, addedTo, List.filterMap_append, ← addedTo, ← addedTo, addedTo_map, ← h.resultsOf]
    rfl

theorem Kept.merge {others : List (Text × FieldResult)} {a b : Summary} (ha : Kept added a) (hb : Kept others b) :
    Kept (added ++ others) (a.merge b) where
  tallied := ha.tallied.merge hb.tallied
  distinct := ha.distinct.merge b.fieldResults
  resultsOf := by
    intro name
    show (a.fieldResults.merge b.fieldResults).resultsOf name = _
    rw [FieldResults.resultsOf_merge _ hb.distinct, addedTo, List.filterMap_append, ← addedTo, ← addedTo,
      ← ha.resultsOf, ← hb.resultsOf]
    rfl

theorem Assembled.kept (h : Assembled added s) : Kept added s := by
  induction h with
  | @start s noResults noErrors noWarnings noFields =>
    refine ⟨⟨?_, ?_, ?_, ?_⟩, ?_, ?_⟩
    · rw [noErrors, noResults]
      rfl
    · rw [noWarnings, noResults]
      rfl
    · rw [noFields, noResults]
      exact Nat.le_refl 0
    · rw [noFields]
      exact Nat.zero_le _
    · rw [noResults]
      exact List.nodup_nil
    · intro field
      rw [Summary.resultsOf, noResults]
      rfl
  | add _ field results ih => exact ih.add field results
  | merge _ _ left right => exact left.merge right

/-! ## Errors and warnings -/

theorem mem_results_iff (distinct : s.fieldResults.Distinct) : r ∈ s.results ↔ ∃ field, r ∈ s.resultsOf field :=
  FieldResults.mem_stored_iff distinct

theorem exists_mem_filter_results_iff (distinct : s.fieldResults.Distinct) (p : FieldResult → Bool) (field : Text) :
    (∃ r ∈ s.resultsOf field, r ∈ s.results.filter p) ↔ ∃ r ∈ s.resultsOf field, p r = true := by
  refine exists_congr fun r => and_congr_right fun hr => ?_
  rw [List.mem_filter, mem_results_iff distinct]
  exact and_iff_right ⟨field, hr⟩

theorem mem_fieldsWithErrors_iff (distinct : s.fieldResults.Distinct) (field : Text) :
    field ∈ s.fieldsWithErrors ↔ ∃ r ∈ s.resultsOf field, r ∈ s.allErrors := by
  rw [allErrors, exists_mem_filter_results_iff distinct]
  exact FieldResults.mem_fieldsWith_iff distinct _ field

theorem mem_fieldsWithWarnings_iff (distinct : s.fieldResults.Distinct) (field : Text) :
    field ∈ s.fieldsWithWarnings ↔ ∃ r ∈ s.resultsOf field, r.hasWarning = true :=
  FieldResults.mem_fieldsWith_iff distinct _ field

theorem exists_mem_allWarnings_iff (distinct : s.fieldResults.Distinct) (field : Text) :
    (∃ r ∈ s.resultsOf field, r ∈ s.allWarnings) ↔ ∃ r ∈ s.resultsOf field, r.isCaution = true :=
  exists_mem_filter_results_iff distinct _ field

theorem fieldsWithWarnings_eq_nil_iff (distinct : s.fieldResults.Distinct) :
    s.fieldsWithWarnings = [] ↔ ¬ ∃ r ∈ s.results, r.hasWarning = true := by
  rw [List.eq_nil_iff_forall_not_mem]
  constructor
  · rintro nowhere ⟨r, hr, warned⟩
    obtain ⟨field, here⟩ := (mem_results_iff distinct).1 hr
    exact nowhere field ((mem_fieldsWithWarnings_iff distinct field).2 ⟨r, here, warned⟩)
  · intro nowhere field listed
    obtain ⟨r, here, warned⟩ := (mem_fieldsWithWarnings_iff distinct field).1 listed
    exact nowhere ⟨r, (mem_results_iff distinct).2 ⟨field, here⟩, warned⟩

theorem totalWarnings_eq_zero_iff (tallied : s.Tallied) :
    s.totalWarnings = 0 ↔ ¬ ∃ r ∈ s.results, r.isCaution = true := by
  rw [tallied.warnings, List.countP_eq_zero, not_exists]
  exact forall_congr' fun r => not_and.symm

/-- When one of these results carries a warning, a valid one does. -/
def WarningsCount (results : List FieldResult) : Prop :=
  (∃ r ∈ results, r.hasWarning = true) → ∃ r ∈ results, r.isCaution = true

/-- A result that counts as a warning carries one, so only the other direction may fail. -/
theorem hasWarning_iff_isCaution_iff (results : List FieldResult) :
    ((∃ r ∈ results, r.hasWarning = true) ↔ ∃ r ∈ results, r.isCaution = true) ↔ WarningsCount results := by
  refine ⟨Iff.mp, fun counts => ⟨counts, ?_⟩⟩
  rintro ⟨r, hr, caution⟩
  exact ⟨r, hr, (Bool.and_eq_true_iff.1 caution).2⟩

theorem warningsCount_of_valid {results : List FieldResult}
    (valid : ∀ r ∈ results, r.hasWarning = true → r.valid = true) : WarningsCount results := by
  rintro ⟨r, hr, warned⟩
  exact ⟨r, hr, Bool.and_eq_true_iff.2 ⟨valid r hr warned, warned⟩⟩

/-- Whatever has been added and merged, under each field are the results that were added to it, and the fields with
errors are those under which there is an error. The fields with warnings are those under which there is a warning, and
there are none exactly when no warning is counted, provided that where a result carries a warning, a valid one does;
so they are when no result that was added is invalid and carries a warning. -/
theorem assembled_sorts (h : Assembled added s) :
    (∀ field, s.resultsOf field = addedTo field added) ∧
    (∀ field, field ∈ s.fieldsWithErrors ↔ ∃ r ∈ s.resultsOf field, r ∈ s.allErrors) ∧
    (∀ field, (field ∈ s.fieldsWithWarnings ↔ ∃ r ∈ s.resultsOf field, r ∈ s.allWarnings) ↔
      WarningsCount (s.resultsOf field)) ∧
    ((s.totalWarnings = 0 ↔ s.fieldsWithWarnings = []) ↔ WarningsCount s.results) ∧
    ((∀ entry ∈ added, entry.2.hasWarning = true → entry.2.valid = true) →
      (∀ field, field ∈ s.fieldsWithWarnings ↔ ∃ r ∈ s.resultsOf field, r ∈ s.allWarnings) ∧
      (s.totalWarnings = 0 ↔ s.fieldsWithWarnings = [])) := by
  obtain ⟨tallied, distinct, resultsOf⟩ := h.kept
  have fields : ∀ field, (field ∈ s.fieldsWithWarnings ↔ ∃ r ∈ s.resultsOf field, r ∈ s.allWarnings) ↔
      WarningsCount (s.resultsOf field) := by
    intro field
    rw [mem_fieldsWithWarnings_iff distinct, exists_mem_allWarnings_iff distinct]
    exact hasWarning_iff_isCaution_iff _
  have total : (s.totalWarnings = 0 ↔ s.fieldsWithWarnings = []) ↔ WarningsCount s.results := by
    rw [totalWarnings_eq_zero_iff tallied, fieldsWithWarnings_eq_nil_iff distinct, not_iff_not]
    exact iff_comm.trans (hasWarning_iff_isCaution_iff s.results)
  refine ⟨resultsOf, mem_fieldsWithErrors_iff distinct, fields, total, ?_⟩
  intro valid
  have validUnder : ∀ field, ∀ r ∈ s.resultsOf field, r.hasWarning = true → r.valid = true := by
    intro field r hr
    rw [resultsOf field, mem_addedTo_iff] at hr
    exact valid (field, r) hr
  have validStored : ∀ r ∈ s.results, r.hasWarning = true → r.valid = true := by
    intro r hr
    obtain ⟨field, here⟩ := (mem_results_iff distinct).1 hr
    exact validUnder field r here
  exact ⟨fun field => (fields field).2 (warningsCount_of_valid (validUnder field)),
    total.2 (warningsCount_of_valid validStored)⟩

/-- A warning and an error of one field, merged with a warning of another field. -/
theorem assembled_sorts_merged :
    let short : FieldResult := .caution "CITY" none none "short"
    let missing : FieldResult := .failure "CITY" none none "missing"
    let old : FieldResult := .caution "CODE" none none "old"
    let added : List (Text × FieldResult) := [("CITY", short), ("CITY", missing), ("CODE", old)]
    let s := ((blank 1 none 0).add "CITY" [short, missing]).merge ((blank 1 (some "B") 7).add "CODE" [old])
    Assembled added s ∧ (∀ entry ∈ added, entry.2.hasWarning = true → entry.2.valid = true) ∧
      s.fieldsWithWarnings = ["CITY".toList, "CODE".toList] ∧ s.resultsOf "CITY" = [short, missing] ∧
      (∀ field, field ∈ s.fieldsWithErrors ↔ ∃ r ∈ s.resultsOf field, r ∈ s.allErrors) ∧
      ∀ field, field ∈ s.fieldsWithWarnings ↔ ∃ r ∈ s.resultsOf field, r ∈ s.allWarnings := by
  intro short missing old added s
  have history : Assembled added s :=
    .merge (.add (.start (s := blank 1 none 0) rfl rfl rfl rfl) "CITY" [short, missing])
      (.add (.start (s := blank 1 (some "B") 7) rfl rfl rfl rfl) "CODE" [old])
  have valid : ∀ entry ∈ added, entry.2.hasWarning = true → entry.2.valid = true := by decide
  obtain ⟨results, errors, -, -, warnings⟩ := assembled_sorts history
  exact ⟨history, valid, by decide, results "CITY", errors, (warnings valid).1⟩

/-- A result that is not valid and carries a warning: its field is listed with the fields with warnings, and no warning
is counted or listed. -/
theorem fieldsWithWarnings_ofInvalid :
    let result : FieldResult := ⟨"CITY", some "x", false, none, some "bad", some "odd"⟩
    let s := (blank 1 none 0).add "CITY" [result]
    Assembled [("CITY", result)] s ∧ s.fieldsWithWarnings = ["CITY".toList] ∧
      (¬ ∃ r ∈ s.resultsOf "CITY", r ∈ s.allWarnings) ∧ s.totalWarnings = 0 ∧ s.allErrors = [result] := by
  intro result s
  exact ⟨Assembled.add (.start (s := blank 1 none 0) rfl rfl rfl rfl) "CITY" [result], by decide, by decide, rfl, rfl⟩

end Summary
end FixedExtract
