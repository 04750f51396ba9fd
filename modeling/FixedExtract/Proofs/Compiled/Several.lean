import FixedExtract.Compiled.Failure
import FixedExtract.Proofs.Definition.Accepted
import FixedExtract.Proofs.Ordering
/-!
# Compiling several definitions

Definitions are compiled together when each of them is accepted, when they are for one job, and when no two of
them have the same transaction type. The text is then put together of the texts that they have one by one.
Otherwise there is one reason, which is the first of these that applies: that there are no definitions, that some
are not accepted, in which case all their errors are listed, that there are several jobs, or that a type is
repeated.
-/

namespace FixedExtract.Compiled

open Definition (checkShape ConfigDraft ShapeReport Submission)
open Layout (Config)

variable {maximum : Int} {submissions : List Submission} {configs : List Config}

/-! ## One definition -/

/-- The definitions are loaded one by one. -/
def LoadAs (maximum : Int) (submissions : List Submission) (configs : List Config) : Prop :=
  List.Forall₂ (fun submission config => Definition.load maximum submission = .ok config) submissions configs

theorem compile_of_refused {submission : Submission} (refused : (checkShape maximum submission).valid = false) :
    compile maximum submission = .error (.shape (checkShape maximum submission)) := by
  rw [compile, Definition.load_of_refused refused]
  rfl

/-- The transaction type that a value stands for, which is the default one for null and blank text. -/
def typeOf : Value → Text
  | .text t => if Text.isBlank t then ConfigDraft.defaultTransactionType else t
  | .bytes bs => (Text.ofBytes? bs).getD ConfigDraft.defaultTransactionType
  | _ => ConfigDraft.defaultTransactionType

theorem eq_typeOf_of_read {v : Value} {type : Text} (read : ConfigDraft.readTransactionType v = .value type) :
    type = typeOf v := by
  cases v with
  | null | text t => exact (Definition.Checked.value.inj read).symm
  | bytes bs =>
    change Definition.readText (.bytes bs) = _ at read
    unfold Definition.readText at read
    show type = (Text.ofBytes? bs).getD _
    cases decoded : Text.ofBytes? bs with
    | none =>
      simp only [decoded] at read
      cases read
    | some t =>
      simp only [decoded] at read
      exact (Definition.Checked.value.inj read).symm
  | bool _ | int _ | float _ | date _ | moment _ | list _ | tuple _ | set _ | map _ | ring _ _ | again _ =>
    cases read

/-- The transaction type that a definition declares, which is the default one when it has none. -/
def declaredType : Submission → Text
  | .draft draft => draft.transactionType
  | .entries entries =>
    ((ConfigDraft.transactionTypeField.find? entries).map fun found => typeOf found.2).getD
      ConfigDraft.defaultTransactionType

/-- What is loaded is the draft of the definition, converted. -/
theorem exists_draft_of_load {submission : Submission} {config : Config}
    (loaded : Definition.load maximum submission = .ok config) :
    ∃ draft, submission.toDraft = .ok draft ∧ draft.toConfig = .ok config := by
  rw [Definition.load, if_pos (Definition.valid_of_load loaded), Definition.convert] at loaded
  cases drafted : submission.toDraft with
  | error found =>
    rw [drafted] at loaded
    cases loaded
  | ok draft =>
    rw [drafted] at loaded
    exact ⟨draft, rfl, Definition.convert_eq_ok_iff.1 loaded⟩

theorem read_of_toDraft {entries : Entries} {draft : ConfigDraft}
    (drafted : (Submission.entries entries).toDraft = .ok draft) :
    ConfigDraft.read (.map entries) = .value draft := by
  change (ConfigDraft.read (.map entries)).toExcept = .ok draft at drafted
  cases outcome : ConfigDraft.read (.map entries) with
  | faults found =>
    rw [outcome] at drafted
    cases drafted
  | value other =>
    rw [outcome] at drafted
    rw [Except.ok.inj drafted]

theorem declaredType_of_load {submission : Submission} {config : Config}
    (loaded : Definition.load maximum submission = .ok config) :
    config.transactionType = declaredType submission := by
  obtain ⟨draft, drafted, converted⟩ := exists_draft_of_load loaded
  rw [Definition.transactionType_of_toConfig converted]
  cases submission with
  | draft given =>
    cases drafted
    rfl
  | entries entries =>
    have type := (ConfigDraft.read_eq_value_iff.1 (read_of_toDraft drafted)).2.2.1
    unfold Definition.FieldName.read at type
    show draft.transactionType = ((ConfigDraft.transactionTypeField.find? entries).map _).getD _
    cases found : ConfigDraft.transactionTypeField.find? entries with
    | none =>
      rw [found] at type
      exact (Definition.Checked.value.inj type).symm
    | some entry =>
      rw [found] at type
      exact eq_typeOf_of_read (Definition.Checked.under_eq_value_iff.1 type)

/-! ## All definitions -/

/-- The reports of the definitions that are not accepted, each with the label of its definition. -/
def refusals (maximum : Int) (submissions : List Submission) : List (Text × ShapeReport) :=
  (submissions.filter fun submission => !(checkShape maximum submission).valid).map fun submission =>
    (label submission, checkShape maximum submission)

/-- All definitions are checked: the accepted ones are loaded, and the reports of the others are kept. -/
theorem exists_loadAll (maximum : Int) (submissions : List Submission) :
    ∃ configs, loadAll maximum submissions = .ok (configs, refusals maximum submissions) ∧
      LoadAs maximum (submissions.filter fun submission => (checkShape maximum submission).valid) configs := by
  induction submissions with
  | nil => exact ⟨[], rfl, .nil⟩
  | cons submission rest ih =>
    obtain ⟨configs, others, loads⟩ := ih
    by_cases accepted : (checkShape maximum submission).valid = true
    · obtain ⟨config, loaded⟩ := Definition.exists_load_of_accepted accepted
      refine ⟨config :: configs, ?_, ?_⟩
      · rw [loadAll, loaded]
        simp [others, refusals, accepted]
      · rw [List.filter_cons, if_pos accepted]
        exact .cons loaded loads
    · have refused := Bool.eq_false_iff.2 accepted
      refine ⟨configs, ?_, ?_⟩
      · rw [loadAll, Definition.load_of_refused refused]
        simp [others, refusals, refused]
      · rw [List.filter_cons, if_neg accepted]
        exact loads

theorem refusals_eq_nil_iff :
    refusals maximum submissions = [] ↔
      ∀ submission ∈ submissions, (checkShape maximum submission).valid = true := by
  simp [refusals]

/-- The messages of all errors of the definitions that are not accepted, definition by definition. -/
theorem shapeMessages_refusals (maximum : Int) (submissions : List Submission) :
    Fault.shapeMessages (refusals maximum submissions) =
      (submissions.filter fun submission => !(checkShape maximum submission).valid).flatMap fun submission =>
        (checkShape maximum submission).errors.map fun fault =>
          '[' :: label submission ++ "] " ++ fault.message := by
  rw [Fault.shapeMessages, refusals, List.flatMap_map]

theorem LoadAs.valid (loads : LoadAs maximum submissions configs) :
    ∀ submission ∈ submissions, (checkShape maximum submission).valid = true := by
  intro submission member
  obtain ⟨config, -, loaded⟩ := exists_of_forall₂_left loads submission member
  exact Definition.valid_of_load loaded

theorem LoadAs.types (loads : LoadAs maximum submissions configs) :
    configs.map Config.transactionType = submissions.map declaredType := by
  symm
  exact map_eq_map_of_forall₂ loads fun _ _ loaded => (declaredType_of_load loaded).symm

/-- Definitions are loaded in one way only. -/
theorem LoadAs.unique {others : List Config} (loads : LoadAs maximum submissions configs)
    (loads' : LoadAs maximum submissions others) : configs = others :=
  List.right_unique_forall₂' (fun _ _ _ loaded loaded' => Except.ok.inj (loaded.symm.trans loaded')) loads loads'

/-- Definitions that are loaded have the texts of their layouts. -/
theorem LoadAs.compiles (loads : LoadAs maximum submissions configs) :
    List.Forall₂ (fun submission text => compile maximum submission = .ok text) submissions
      (configs.map text) := by
  rw [List.forall₂_map_right_iff]
  refine loads.imp fun submission config loaded => ?_
  rw [compile, loaded]
  rfl

theorem LoadAs.texts_eq (loads : LoadAs maximum submissions configs) {texts : List Text}
    (compiles : List.Forall₂ (fun submission text => compile maximum submission = .ok text) submissions texts) :
    configs.map text = texts :=
  List.right_unique_forall₂' (fun _ _ _ text text' => Except.ok.inj (text.symm.trans text')) loads.compiles
    compiles

/-! ## Layouts together -/

/-- The layouts are for one job. -/
def OneJob (configs : List Config) : Prop := ∀ a ∈ configs, ∀ b ∈ configs, a.jobName = b.jobName

theorem length_jobs_le_one_iff :
    ¬ (Text.sortedSet (configs.map Config.jobName)).length > 1 ↔ OneJob configs := by
  rw [Text.sortedSet, gt_iff_lt, Definition.one_lt_length_eraseDups_iff]
  simp only [List.mem_mergeSort, List.mem_map]
  constructor
  · intro single a ha b hb
    by_contra different
    exact single ⟨_, ⟨a, ha, rfl⟩, _, ⟨b, hb, rfl⟩, different⟩
  · rintro single ⟨_, ⟨a, ha, rfl⟩, _, ⟨b, hb, rfl⟩, different⟩
    exact different (single a ha b hb)

theorem firstRepeated?_eq_none_iff {α : Type} [BEq α] [LawfulBEq α] {seen values : List α} :
    firstRepeated? seen values = none ↔ values.Nodup ∧ ∀ a ∈ values, a ∉ seen := by
  induction values generalizing seen with
  | nil => simp [firstRepeated?]
  | cons a rest ih =>
    rw [firstRepeated?]
    by_cases repeated : a ∈ seen
    · rw [if_pos (List.elem_iff.2 repeated)]
      refine iff_of_false (by simp) ?_
      rintro ⟨-, fresh⟩
      exact fresh a List.mem_cons_self repeated
    · rw [if_neg (by simpa using repeated), ih, List.nodup_cons]
      constructor
      · rintro ⟨distinct, fresh⟩
        refine ⟨⟨fun again => fresh a again List.mem_cons_self, distinct⟩, ?_⟩
        intro b hb
        rcases List.mem_cons.1 hb with rfl | hb
        · exact repeated
        · exact fun before => fresh b hb (List.mem_cons_of_mem a before)
      · rintro ⟨⟨once, distinct⟩, fresh⟩
        refine ⟨distinct, ?_⟩
        intro b hb before
        rcases List.mem_cons.1 before with rfl | before
        · exact once hb
        · exact fresh b (List.mem_cons_of_mem a hb) before

/-- The first element that is repeated ends the longest front in which none is. -/
theorem exists_split_of_firstRepeated? {α : Type} [BEq α] [LawfulBEq α] {seen values : List α} {a : α}
    (h : firstRepeated? seen values = some a) :
    ∃ before after, values = before ++ a :: after ∧ before.Nodup ∧ (∀ b ∈ before, b ∉ seen) ∧
      (a ∈ seen ∨ a ∈ before) := by
  induction values generalizing seen with
  | nil => cases h
  | cons first rest ih =>
    rw [firstRepeated?] at h
    by_cases repeated : first ∈ seen
    · rw [if_pos (List.elem_iff.2 repeated)] at h
      cases h
      exact ⟨[], rest, rfl, List.nodup_nil, fun b hb => (by cases hb), .inl repeated⟩
    · rw [if_neg (by simpa using repeated)] at h
      -- From here on the first element counts as seen, so it may be the one that is repeated.
      obtain ⟨before, after, rfl, distinct, new, again⟩ := ih h
      refine ⟨first :: before, after, rfl, ?_, ?_, ?_⟩
      · exact List.nodup_cons.2 ⟨fun member => new first member List.mem_cons_self, distinct⟩
      · exact List.forall_mem_cons.2 ⟨repeated, fun b hb => fun old => new b hb (List.mem_cons_of_mem first old)⟩
      · rcases again with old | here
        · rcases List.mem_cons.1 old with rfl | old
          · exact .inr List.mem_cons_self
          · exact .inl old
        · exact .inr (List.mem_cons_of_mem first here)

/-! ## What compiling comes to -/

/-- What can come of compiling definitions together, with what each outcome is due to. -/
inductive Outcome (maximum : Int) (submissions : List Submission) : Except Fault Text → Prop where
  | noDefinitions (none : submissions = []) : Outcome maximum submissions (.error .noDefinitions)
  | refused (some : ∃ submission ∈ submissions, (checkShape maximum submission).valid = false) :
    Outcome maximum submissions (.error (.shapes (refusals maximum submissions)))
  | severalJobs (configs : List Config) (loads : LoadAs maximum submissions configs) (several : ¬OneJob configs)
      (jobs : List Text) (ascending : jobs.Pairwise Text.Before)
      (all : ∀ job, job ∈ jobs ↔ ∃ config ∈ configs, config.jobName = job) :
    Outcome maximum submissions (.error (.severalJobs jobs))
  | repeatedType (configs : List Config) (loads : LoadAs maximum submissions configs) (oneJob : OneJob configs)
      (before after : List Text) (type : Text)
      (types : configs.map Config.transactionType = before ++ type :: after) (distinct : before.Nodup)
      (again : type ∈ before) :
    Outcome maximum submissions (.error (.repeatedType type))
  | compiled (configs : List Config) (loads : LoadAs maximum submissions configs) (oneJob : OneJob configs)
      (some : submissions ≠ []) (distinct : (configs.map Config.transactionType).Nodup) (texts : List Text)
      (alone : List.Forall₂ (fun submission text => compile maximum submission = .ok text) submissions texts) :
    Outcome maximum submissions (.ok (Text.join separator texts))

theorem outcome_compileAll (maximum : Int) (submissions : List Submission) :
    Outcome maximum submissions (compileAll maximum submissions) := by
  rw [compileAll]
  by_cases none : submissions = []
  · rw [if_pos (List.isEmpty_iff.2 none)]
    exact .noDefinitions none
  rw [if_neg (mt List.isEmpty_iff.1 none)]
  obtain ⟨configs, all, loads⟩ := exists_loadAll maximum submissions
  rw [all]
  cases reports : refusals maximum submissions with
  | nil =>
    -- Without reports every definition is loaded, and what is left is to combine the layouts.
    have accepted := refusals_eq_nil_iff.1 reports
    rw [List.filter_eq_self.2 accepted] at loads
    show Outcome maximum submissions (combine configs)
    rw [combine]
    by_cases oneJob : OneJob configs
    · rw [if_neg (length_jobs_le_one_iff.2 oneJob)]
      cases repeated : firstRepeated? [] (configs.map Config.transactionType) with
      | some type =>
        obtain ⟨before, after, types, distinct, -, again⟩ := exists_split_of_firstRepeated? repeated
        exact .repeatedType configs loads oneJob before after type types distinct
          (again.resolve_left List.not_mem_nil)
      | none =>
        have distinct := (firstRepeated?_eq_none_iff.1 repeated).1
        exact .compiled configs loads oneJob none distinct (configs.map text) loads.compiles
    · rw [if_pos (by_contra (oneJob ∘ length_jobs_le_one_iff.1))]
      refine .severalJobs configs loads oneJob _ (Text.pairwise_sortedSet _) fun job => ?_
      rw [Text.mem_sortedSet_iff, List.mem_map]
  | cons first rest =>
    -- One report is enough: the layouts of the other definitions are not looked at any more.
    have some : ∃ submission ∈ submissions, (checkShape maximum submission).valid = false := by
      by_contra none
      have accepted : ∀ submission ∈ submissions, (checkShape maximum submission).valid = true := by
        simpa using none
      rw [refusals_eq_nil_iff.2 accepted] at reports
      cases reports
    show Outcome maximum submissions (.error (.shapes (first :: rest)))
    rw [← reports]
    exact .refused some

/-- Definitions that can be loaded, for one job and for types that differ, are compiled. -/
theorem exists_compileAll_of_loadAs (some : submissions ≠ []) (loads : LoadAs maximum submissions configs)
    (oneJob : OneJob configs) (distinct : (submissions.map declaredType).Nodup) :
    ∃ compiled, compileAll maximum submissions = .ok compiled := by
  have outcome := outcome_compileAll maximum submissions
  cases compiles : compileAll maximum submissions with
  | ok compiled => exact ⟨compiled, rfl⟩
  | error fault =>
    rw [compiles] at outcome
    cases outcome with
    | noDefinitions none => exact absurd none some
    | refused refused =>
      obtain ⟨submission, member, refused⟩ := refused
      rw [loads.valid submission member] at refused
      cases refused
    | severalJobs others loads' several =>
      rw [← loads.unique loads'] at several
      exact absurd oneJob several
    | repeatedType others loads' _ before after type types _ again =>
      rw [← loads'.types, types, List.nodup_append] at distinct
      exact absurd rfl (distinct.2.2 type again type List.mem_cons_self)

/-- When definitions are not compiled together, callers are told of all errors of those that are not accepted; of
another kind is the failure only when all are accepted. -/
theorem exists_failure_of_compileAll {fault : Fault} (h : compileAll maximum submissions = .error fault) :
    ∃ failure, fault.failure? = .ok failure ∧
      ((∀ submission ∈ submissions, (checkShape maximum submission).valid = true) →
        failure.cls = .configCompile) ∧
      ((∃ submission ∈ submissions, (checkShape maximum submission).valid = false) →
        failure.cls = .configShape ∧
        failure.errors? =
          some ((Fault.shapeMessages (refusals maximum submissions)).map .text)) := by
  have outcome := outcome_compileAll maximum submissions
  rw [h] at outcome
  have neither (accepted : ∀ submission ∈ submissions, (checkShape maximum submission).valid = true) :
      ¬∃ submission ∈ submissions, (checkShape maximum submission).valid = false := by
    rintro ⟨submission, member, refused⟩
    rw [accepted submission member] at refused
    cases refused
  cases outcome with
  | noDefinitions none =>
    subst none
    exact ⟨_, rfl, fun _ => rfl, fun some => absurd some (neither fun _ member => by cases member)⟩
  | refused some => exact ⟨_, rfl, fun accepted => absurd some (neither accepted), fun _ => ⟨rfl, rfl⟩⟩
  | severalJobs configs loads => exact ⟨_, rfl, fun _ => rfl, fun some => absurd some (neither loads.valid)⟩
  | repeatedType configs loads => exact ⟨_, rfl, fun _ => rfl, fun some => absurd some (neither loads.valid)⟩

/-- Definitions, whether they are drafts or not read yet, are compiled together exactly when there are some, each
of them is accepted, and their layouts are for one job and for types that differ, of which the default one stands
for a blank or missing one. The text is then put together of their texts, in order. Otherwise the reason is the
first of those that apply: there are none; some are not accepted, and every error of each is listed under the
label of its definition; there are several jobs, which are listed in order and once; a type is repeated. -/
theorem compileAll_outcome (maximum : Int) (submissions : List Submission) :
    Outcome maximum submissions (compileAll maximum submissions) ∧
    ((∃ compiled, compileAll maximum submissions = .ok compiled) ↔
      submissions ≠ [] ∧ (∀ submission ∈ submissions, (checkShape maximum submission).valid = true) ∧
      ∃ configs, LoadAs maximum submissions configs ∧ OneJob configs ∧
        (submissions.map declaredType).Nodup) ∧
    (∀ configs, LoadAs maximum submissions configs →
      configs.map Config.transactionType = submissions.map declaredType) ∧
    (∀ fault, compileAll maximum submissions = .error fault → ∃ failure, fault.failure? = .ok failure ∧
      ((∀ submission ∈ submissions, (checkShape maximum submission).valid = true) →
        failure.cls = .configCompile) ∧
      ((∃ submission ∈ submissions, (checkShape maximum submission).valid = false) →
        failure.cls = .configShape ∧
        failure.errors? = some ((Fault.shapeMessages (refusals maximum submissions)).map .text))) ∧
    (Fault.shapeMessages (refusals maximum submissions) =
      (submissions.filter fun submission => !(checkShape maximum submission).valid).flatMap fun submission =>
        (checkShape maximum submission).errors.map fun fault =>
          '[' :: label submission ++ "] " ++ fault.message) ∧
    (∀ submission, (checkShape maximum submission).valid = false →
      compile maximum submission = .error (.shape (checkShape maximum submission))) := by
  have outcome := outcome_compileAll maximum submissions
  refine ⟨outcome, ?_, fun _ => LoadAs.types, fun _ => exists_failure_of_compileAll,
    shapeMessages_refusals maximum submissions, fun _ => compile_of_refused⟩
  constructor
  · rintro ⟨compiled, h⟩
    rw [h] at outcome
    cases outcome with
    | compiled configs loads oneJob some distinct texts alone =>
      exact ⟨some, loads.valid, configs, loads, oneJob, loads.types ▸ distinct⟩
  · rintro ⟨some, -, configs, loads, oneJob, distinct⟩
    exact exists_compileAll_of_loadAs some loads oneJob distinct

end FixedExtract.Compiled
