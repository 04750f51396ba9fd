import FixedExtract.Proofs.Definition.Accepted
import FixedExtract.Proofs.Layout.Choosing
/-!
# Conditional fields that always have a branch

The check warns of a conditional field when none of its conditions has an else and there is no default. It looks at
all conditions at once, and at no record. A choice goes through the conditions one after the other, for every record
anew. Both come to the same: without the warning there is a branch for every record, and with it there is none for
those that no expression holds for.
-/

namespace FixedExtract.Layout

section
variable {record : Record} {conditions : List Condition} {defaultValue : Option Text}

/-- Some condition has an else, or there is a default. -/
def Covered (conditions : List Condition) (defaultValue : Option Text) : Prop :=
  (∃ condition ∈ conditions, condition.otherwise? ≠ none) ∨ defaultValue ≠ none

theorem Branch.ofPlace_ne_none (index count : Nat) : Branch.ofPlace index count ≠ .none := by
  unfold Branch.ofPlace
  split <;> nofun

/-- Where the search leaves all conditions behind, only a default can cover what is left. -/
theorem fallback_branch_ne_none (covered : Covered conditions defaultValue)
    (passes : ∀ condition ∈ conditions, Passes record condition) : (fallback defaultValue).branch ≠ .none := by
  rcases covered with ⟨condition, member, hasElse⟩ | given
  · exact absurd (passes condition member).noElse hasElse
  · obtain ⟨value, rfl⟩ := Option.ne_none_iff_exists'.1 given
    nofun

/-- Conditions that are covered and parse have a branch for every record. -/
theorem exists_branch_of_covered (sound : ∀ condition ∈ conditions, condition.Sound)
    (covered : Covered conditions defaultValue) (record : Record) :
    ∃ choice, choose conditions record defaultValue = .ok choice ∧ choice.branch ≠ .none := by
  rw [choose]
  cases ending record conditions with
  | @holds index count _ _ reaches found holds =>
    rw [reaches.chooseTraced_of_holds found holds]
    exact ⟨_, rfl, Branch.ofPlace_ne_none index count⟩
  | malformed reaches found malformed =>
    -- An expression of these conditions parses, so it is not what the search ends at.
    have parses := sound _ (List.mem_of_getElem? reaches.found) _ (List.mem_of_getElem? found)
    obtain ⟨held, evaluated⟩ := parses.evaluate record
    rw [malformed] at evaluated
    cases evaluated
  | otherwise reaches otherwise =>
    rw [reaches.chooseTraced_of_otherwise otherwise]
    refine ⟨_, rfl, ?_⟩
    intro none
    cases none
  | passes passes =>
    rw [chooseTraced_of_passes passes]
    exact ⟨_, rfl, fallback_branch_ne_none covered passes⟩

/-- Conditions that are not covered have no branch for a record that no expression holds for. -/
theorem choose_of_uncovered (uncovered : ¬Covered conditions defaultValue)
    (fail : ∀ condition ∈ conditions, Fail record condition.branches) :
    choose conditions record defaultValue = .ok ⟨[], .none⟩ := by
  have passes : ∀ condition ∈ conditions, Passes record condition := by
    intro condition member
    refine ⟨fail condition member, ?_⟩
    by_contra hasElse
    exact uncovered (.inl ⟨condition, member, hasElse⟩)
  have noDefault : defaultValue = none := by
    by_contra given
    exact uncovered (.inr given)
  rw [choose, chooseTraced_of_passes passes, noDefault]
  rfl

end

end FixedExtract.Layout

namespace FixedExtract.Definition

/-! ## Drafts that are not covered -/

/-- The mapping has conditions, none of them with an else, and no default. -/
structure MappingDraft.Uncovered (m : MappingDraft) : Prop where
  nonEmpty : m.conditions ≠ []
  noElse : ∀ condition ∈ m.conditions, hasElse condition = false
  noDefault : m.defaultValue = none

theorem uncovered_iff {m : MappingDraft} :
    (!m.conditions.isEmpty && !m.conditions.any hasElse && m.defaultValue.isNone) = true ↔ m.Uncovered := by
  simp only [Bool.and_eq_true, Bool.not_eq_true', List.isEmpty_eq_false_iff, List.any_eq_false, Bool.not_eq_true,
    Option.isNone_iff_eq_none]
  exact ⟨fun h => ⟨h.1.1, h.1.2, h.2⟩, fun h => ⟨⟨h.nonEmpty, h.noElse⟩, h.noDefault⟩⟩

/-- The warning is given for conditional mappings that are not covered, under their label. -/
theorem noElse_mem_checkMapping_iff {index : Nat} {m : MappingDraft} {name : Text} :
    .noElse name ∈ (checkMapping index m).warnings ↔
      mappingKind m = .ok .conditional ∧ m.Uncovered ∧ mappingLabel index m = name := by
  unfold checkMapping
  cases mappingKind m with
  | error fault => simp
  | ok kind =>
    cases kind with
    | conditional =>
      simp only [transformationWarnings, ← uncovered_iff, true_and]
      split
      · next uncovered => simp [uncovered, eq_comm]
      · next covered => simp [covered]
    | constant =>
      simp only [transformationWarnings]
      split <;> simp
    | _ => simp [transformationWarnings]

theorem mappingLabel_of_present {index : Nat} {m : MappingDraft} {name : Text} (named : m.targetFieldName = some name)
    (nonBlank : Text.isBlank name = false) : mappingLabel index m = name := by
  have kept : m.targetFieldName.filter (fun name => !Text.isBlank name) = some name :=
    Text.filter_nonBlank_eq_some_iff.2 ⟨named, nonBlank⟩
  rw [mappingLabel, kept]

/-- Names are not shared in a well-formed definition, so the warning tells whether the mapping of that name is
covered. -/
theorem noElse_mem_warnings_iff {maximum : Int} {draft : ConfigDraft} {m : MappingDraft} {name : Text}
    (wellFormed : draft.WellFormed maximum) (member : m ∈ draft.mappings)
    (kind : mappingKind m = .ok .conditional) (named : m.targetFieldName = some name) :
    .noElse name ∈ (checkShape maximum (.draft draft)).warnings ↔ m.Uncovered := by
  have labelled : ∀ other ∈ draft.mappings, ∀ index label, other.targetFieldName = some label →
      mappingLabel index other = label := by
    intro other among index label given
    obtain ⟨label', given', nonBlank⟩ := (wellFormed.mappings other among).name
    rw [given] at given'
    cases given'
    exact mappingLabel_of_present given nonBlank
  rw [checkShape, checkMappings_draft, List.mem_flatMap]
  constructor
  · rintro ⟨⟨other, index⟩, numbered, warned⟩
    have among : other ∈ draft.mappings := List.fst_mem_of_mem_zipIdx numbered
    obtain ⟨-, uncovered, label⟩ := noElse_mem_checkMapping_iff.1 warned
    obtain ⟨name', given, -⟩ := (wellFormed.mappings other among).name
    rw [labelled other among index name' given] at label
    have same : other = m :=
      List.inj_on_of_nodup_map wellFormed.names among member (by rw [given, named, label])
    exact same ▸ uncovered
  · intro uncovered
    obtain ⟨index, bound, rfl⟩ := List.mem_iff_getElem.1 member
    refine ⟨(draft.mappings[index], index), List.mk_mem_zipIdx_iff_getElem?.2 (List.getElem?_eq_getElem bound), ?_⟩
    exact noElse_mem_checkMapping_iff.2 ⟨kind, uncovered, labelled _ member index name named⟩

/-! ## Conversion -/

/-- A draft of a condition has an else exactly when the condition made of it has. -/
theorem otherwise?_ne_none_iff {draft : ConditionDraft} {condition : Layout.Condition}
    (converted : draft.toCondition = .ok condition) : condition.otherwise? ≠ none ↔ hasElse draft = true := by
  have same : condition.elseExpr = draft.elseExpr := (Layout.Condition.make_eq_ok_iff.1 converted).2.2.2
  rw [Layout.Condition.otherwise?, same, hasElse, ne_eq, Text.filter_nonBlank_eq_none_iff, not_not, Bool.not_eq_true',
    Text.isBlank?_eq_false_iff]

/-- A conditional draft becomes a mapping whose conditions stand beside those of the draft. -/
theorem conditions_of_toMapping {m : MappingDraft} {mapping : Layout.Mapping}
    (kind : mappingKind m = .ok .conditional) (converted : m.toMapping = .ok mapping) :
    mapping.defaultValue = m.defaultValue ∧ ∃ conditions nonEmpty,
      mapping.transformation = .conditional conditions nonEmpty ∧
      List.Forall₂ (fun draft condition => draft.toCondition = .ok condition) m.conditions conditions := by
  obtain ⟨word, hw, hk⟩ := mappingKind_eq_ok_iff.1 kind
  obtain ⟨transformation, ht, converted⟩ := bind_eq_ok_iff.1 converted
  obtain ⟨pad, -, made⟩ := bind_eq_ok_iff.1 converted
  obtain ⟨-, -, -, transformed, -, -, -, default⟩ := Layout.Mapping.make_eq_ok_iff.1 made
  rw [MappingDraft.toTransformation, MappingDraft.readKind_of_named hw hk, ok_bind] at ht
  obtain ⟨conditions, beside, made⟩ := bind_eq_ok_iff.1 ht
  obtain ⟨nonEmpty, rfl⟩ := Layout.Transformation.makeConditional_eq_ok_iff.1 made
  exact ⟨default, conditions, nonEmpty, transformed, mapM_eq_ok_iff.1 beside⟩

/-- The conditions that are made of a draft are covered unless the draft is not. -/
theorem covered_iff {m : MappingDraft} {conditions : List Layout.Condition} (nonEmpty : conditions ≠ [])
    (beside : List.Forall₂ (fun draft condition => draft.toCondition = .ok condition) m.conditions conditions) :
    Layout.Covered conditions m.defaultValue ↔ ¬m.Uncovered := by
  have some : m.conditions ≠ [] := by
    intro none
    rw [none] at beside
    exact nonEmpty (List.forall₂_nil_left_iff.1 beside)
  constructor
  · intro covered uncovered
    rcases covered with ⟨condition, member, hasElse⟩ | given
    · obtain ⟨draft, among, converted⟩ := exists_of_forall₂_right beside condition member
      rw [otherwise?_ne_none_iff converted, uncovered.noElse draft among] at hasElse
      cases hasElse
    · exact given uncovered.noDefault
  · intro covered
    by_contra uncovered
    refine covered ⟨some, ?_, ?_⟩
    · intro draft among
      obtain ⟨condition, member, converted⟩ := exists_of_forall₂_left beside draft among
      by_contra given
      rw [Bool.not_eq_false, ← otherwise?_ne_none_iff converted] at given
      exact uncovered (.inl ⟨condition, member, given⟩)
    · by_contra given
      exact uncovered (.inr given)

/-- A conditional mapping of an accepted definition becomes a field of the layout that is loaded (which has no fields
where null covers them). Without the warning about a missing else, every record has a branch there or the default.
With it, a record that no expression holds for has no branch and an empty value. -/
theorem resolve_of_accepted {maximum : Int} {submission : Submission} {m : MappingDraft}
    (accepted : (checkShape maximum submission).valid = true)
    (member : m ∈ (readSubmission submission).draft.mappings)
    (kind : mappingKind m = .ok .conditional) :
    let report := checkShape maximum submission
    ∃ name mapping conditions nonEmpty, m.targetFieldName = some name ∧ m.toMapping = .ok mapping ∧
      mapping.transformation = .conditional conditions nonEmpty ∧
      (∃ config, load maximum submission = .ok config ∧ (mapping ∈ config.mappings ∨ config.mappings = [])) ∧
      (.noElse name ∉ report.warnings → ∀ (evaluator : Layout.Evaluator) record, ∃ choice,
        (evaluator.resolve conditions record mapping.defaultValue).1 = .ok choice ∧ choice.branch ≠ .none) ∧
      (.noElse name ∈ report.warnings → ∀ (evaluator : Layout.Evaluator) record,
        (∀ condition ∈ conditions, Layout.Fail record condition.branches) →
        (evaluator.resolve conditions record mapping.defaultValue).1 = .ok ⟨[], .none⟩) := by
  intro report
  obtain ⟨draft, config, seen, wellFormed, loaded, made⟩ := exists_seen_of_accepted accepted
  rw [seen] at member
  obtain ⟨name, named, -⟩ := (wellFormed.mappings m member).name
  obtain ⟨mapping, converts⟩ := (wellFormed.mappings m member).convertsTo
  obtain ⟨default, conditions, nonEmpty, transformed, beside⟩ := conditions_of_toMapping kind converts.converted
  have warned : .noElse name ∈ report.warnings ↔ ¬Layout.Covered conditions mapping.defaultValue := by
    have sameReport : report = checkShape maximum (.draft draft) := by rw [checkShape, ← seen]; rfl
    rw [sameReport, noElse_mem_warnings_iff wellFormed member kind named, default, covered_iff nonEmpty beside, not_not]
  have sound : ∀ condition ∈ conditions, condition.Sound := by
    have conditionsSound := converts.sound.conditions
    rw [transformed] at conditionsSound
    exact conditionsSound
  refine ⟨name, mapping, conditions, nonEmpty, named, converts.converted, transformed, ⟨config, loaded, ?_⟩, ?_, ?_⟩
  · rcases made with converted | covered
    · obtain ⟨mappings, each, config⟩ := bind_eq_ok_iff.1 converted
      cases config
      obtain ⟨other, among, same⟩ := exists_of_forall₂_left (mapM_eq_ok_iff.1 each) m member
      rw [converts.converted] at same
      cases same
      exact .inl among
    · exact .inr covered
  · intro unwarned evaluator record
    rw [warned, not_not] at unwarned
    exact Layout.exists_branch_of_covered sound unwarned record
  · intro warning evaluator record fail
    exact Layout.choose_of_uncovered (warned.1 warning) fail

/-- A conditional mapping of one character at the position. -/
def gradeDraft (name : Text) (position : Int) (conditions : List ConditionDraft) : MappingDraft :=
  { MappingDraft.blank with
    targetFieldName := some name, targetPosition := some position, length := some 1,
    transformationType := some "conditional", conditions := conditions }

/-- A condition with one else-if branch. -/
def gradeCondition (otherwise : Option Text) : ConditionDraft :=
  ⟨some "AGE < 18", some "A", [⟨some "AGE < 65", some "B", [], some "D"⟩], otherwise⟩

/-- The condition that is made of it. -/
def gradeChoice (otherwise : Option Text) : Layout.Condition :=
  ⟨⟨"AGE < 18", by decide⟩, "A", [⟨"AGE < 65", "B"⟩], otherwise⟩

/-- Of two fields one has an else in its last condition, and the other one only within an else-if branch, where it
does not count. -/
theorem resolve_of_accepted_twoGrades :
    let closed := gradeDraft "CLOSED" 1 [gradeCondition none, gradeCondition (some "C")]
    let opened := gradeDraft "OPEN" 2 [gradeCondition (some " ")]
    let submission := Submission.draft (markDraft [closed, opened])
    (checkShape defaultMaxLength submission).valid = true ∧
      (checkShape defaultMaxLength submission).warnings = [.noElse "OPEN"] ∧
      (∀ (evaluator : Layout.Evaluator) record, ∃ choice,
        (evaluator.resolve [gradeChoice none, gradeChoice (some "C")] record none).1 = .ok choice ∧
          choice.branch ≠ .none) ∧
      ∀ (evaluator : Layout.Evaluator) record, Layout.Fail record (gradeChoice (some " ")).branches →
        (evaluator.resolve [gradeChoice (some " ")] record none).1 = .ok ⟨[], .none⟩ := by
  intro closed opened submission
  have accepted : (checkShape defaultMaxLength submission).valid = true := by decide +kernel
  have warnings : (checkShape defaultMaxLength submission).warnings = [.noElse "OPEN"] := by decide +kernel
  refine ⟨accepted, warnings, ?_, ?_⟩
  · have member : closed ∈ (readSubmission submission).draft.mappings := List.mem_cons_self
    obtain ⟨name, mapping, conditions, nonEmpty, named, converted, transformed, -, covered, -⟩ :=
      resolve_of_accepted accepted member rfl
    cases named
    cases converted
    cases transformed
    exact covered (by rw [warnings]; decide)
  · have member : opened ∈ (readSubmission submission).draft.mappings := List.mem_cons_of_mem closed List.mem_cons_self
    obtain ⟨name, mapping, conditions, nonEmpty, named, converted, transformed, -, -, uncovered⟩ :=
      resolve_of_accepted accepted member rfl
    cases named
    cases converted
    cases transformed
    intro evaluator record fail
    exact uncovered (by rw [warnings]; decide) evaluator record (List.forall_mem_singleton.2 fail)

end FixedExtract.Definition
