import FixedExtract.Proofs.Definition.Repetition
import FixedExtract.Proofs.Layout.Word
import Mathlib.Algebra.Ring.Int.Defs
import Mathlib.Data.Option.Basic
/-!
# Well-formed definitions

What a definition has to be for its shape to be accepted, said without the passes that look for faults:
what has to be there is there, positions and lengths are positive, names, keys and positions are not
repeated, every expression parses, and the line is not too wide. The main statement is that the check
finds nothing exactly in the definitions that are well-formed.

Every pass of the check has a lemma that says when it is silent; a mapping's lemmas follow the kinds of
transformation.
-/

namespace FixedExtract.Definition

open Text (Present)

/-! ## Well-formed parts -/

/-- A number that is there and positive. -/
def Positive (n : Option Int) : Prop := ∃ k, n = some k ∧ 0 < k

/-- An expression that is there, is not blank, and parses when the white space around it is dropped. -/
def Testable (expression : Option Text) : Prop :=
  ∃ text, expression = some text ∧ Text.isBlank text = false ∧
    ∃ node, Expression.parse (Text.strip text) = .ok node

/-- A condition all of whose expressions can be tested. -/
structure ConditionDraft.WellFormed (condition : ConditionDraft) : Prop where
  ifExpr : Testable condition.ifExpr
  elseIfs : ∀ branch ∈ condition.elseIfs, Testable branch.ifExpr

/-- The mapping has what a transformation of the kind needs. -/
def MappingDraft.Supplies (m : MappingDraft) : Layout.TransformationKind → Prop
  | .source => Present m.sourceField
  | .constant => True
  | .composite =>
    m.sources ≠ [] ∧ (∀ source ∈ m.sources, Text.isBlank source.text = false) ∧
      ∀ word, m.transform = some word →
        ∃ operation : Layout.CompositeOperation, operation.IsWrittenAs word
  | .conditional => m.conditions ≠ [] ∧ ∀ condition ∈ m.conditions, condition.WellFormed

structure MappingDraft.WellFormed (m : MappingDraft) : Prop where
  name : Present m.targetFieldName
  position : Positive m.targetPosition
  length : Positive m.length
  pad : ∀ word, m.pad = some word →
    ∃ side : Layout.PadSide, side.name = Text.lower (Text.strip word)
  padChar : ∀ text, m.padChar = some text → text.length = 1
  kind : ∃ word, ∃ kind : Layout.TransformationKind, m.transformationType = some word ∧
    kind.name = Text.lower (Text.strip word) ∧ m.Supplies kind

/-- A definition of which a layout can be made whose lines have at most `maximum` characters. -/
structure ConfigDraft.WellFormed (maximum : Int) (draft : ConfigDraft) : Prop where
  sourceSystem : Present draft.sourceSystem
  jobName : Present draft.jobName
  nonEmpty : draft.mappings ≠ []
  mappings : ∀ m ∈ draft.mappings, m.WellFormed
  names : (draft.mappings.map MappingDraft.targetFieldName).Nodup
  keys : (draft.mappings.map fun m => m.targetFieldName.map fieldKey).Nodup
  positions : (draft.mappings.map MappingDraft.targetPosition).Nodup
  width : (draft.mappings.map fun m => m.length.getD 0).sum ≤ maximum

/-! ## One mapping -/

/-- What is said of the elements of a numbered list does not depend on the numbers. -/
theorem forall_mem_zipIdx {α : Type} {list : List α} {start : Nat} {P : α → Prop} :
    (∀ entry ∈ list.zipIdx start, P entry.1) ↔ ∀ a ∈ list, P a := by
  constructor
  · intro h a ha
    obtain ⟨i, hi, rfl⟩ := List.mem_iff_getElem.1 ha
    exact h (list[i], start + i) (List.mk_add_mem_zipIdx_iff_getElem?.2 (by simp))
  · intro h entry he
    exact h entry.1 (List.fst_mem_of_mem_zipIdx he)

theorem isPositive_iff {n : Option Int} : isPositive n = true ↔ Positive n := by
  cases n <;> simp [isPositive, Positive]

/-- An expression is found faultless exactly when it can be tested. -/
theorem checkExpression_eq_nil_iff {place : Place} {expression : Option Text} :
    checkExpression place expression = [] ↔ Testable expression := by
  unfold checkExpression
  cases h : expression.filter fun text => !Text.isBlank text with
  | none =>
    rw [Text.filter_nonBlank_eq_none_iff] at h
    simp only [List.cons_ne_nil, false_iff]
    rintro ⟨text, rfl, nonBlank, -⟩
    exact h ⟨text, rfl, nonBlank⟩
  | some text =>
    obtain ⟨rfl, nonBlank⟩ := Text.filter_nonBlank_eq_some_iff.1 h
    cases hp : Expression.parse (Text.strip text) with
    | ok node => simp [Testable, nonBlank, hp]
    | error fault => simp [Testable, hp]

theorem checkCondition_eq_nil_iff {number : Nat} {condition : ConditionDraft} :
    checkCondition number condition = [] ↔ condition.WellFormed := by
  rw [checkCondition, List.append_eq_nil_iff, checkExpression_eq_nil_iff, List.flatMap_eq_nil_iff]
  simp only [checkExpression_eq_nil_iff]
  rw [forall_mem_zipIdx (P := fun branch : ConditionDraft => Testable branch.ifExpr)]
  exact ⟨fun ⟨ifExpr, elseIfs⟩ => ⟨ifExpr, elseIfs⟩, fun ⟨ifExpr, elseIfs⟩ => ⟨ifExpr, elseIfs⟩⟩

/-- The transformation is found faultless exactly when the mapping has what it needs. -/
theorem checkTransformation_eq_nil_iff {m : MappingDraft} {kind : Layout.TransformationKind} :
    checkTransformation m kind = [] ↔ m.Supplies kind := by
  cases kind with
  | source =>
    simp only [checkTransformation, MappingDraft.Supplies, ← Text.isBlank?_eq_false_iff]
    cases Text.isBlank? m.sourceField <;> simp
  | constant => simp [checkTransformation, MappingDraft.Supplies]
  | composite =>
    simp only [checkTransformation, MappingDraft.Supplies, List.append_eq_nil_iff, and_assoc]
    refine and_congr ?_ (and_congr ?_ ?_)
    · cases m.sources <;> simp
    · rw [List.filterMap_eq_nil_iff]
      simp only [ite_eq_right_iff, reduceCtorEq, imp_false, Bool.not_eq_true]
      rw [forall_mem_zipIdx (P := fun source => Text.isBlank source = false),
        MappingDraft.sourceNames, List.forall_mem_map]
    · simp only [← Layout.CompositeOperation.ofText?_eq_some_iff, ← Layout.readOperation_some_eq_ok]
      cases m.transform with
      | none => simp
      | some word =>
        simp only [Option.map_some, Option.some.injEq, forall_eq']
        cases Layout.readOperation (some word) <;> simp
  | conditional =>
    simp only [checkTransformation, MappingDraft.Supplies]
    cases hc : m.conditions with
    | nil => simp
    | cons condition rest =>
      simp only [List.isEmpty_cons, Bool.false_eq_true, if_false, List.flatMap_eq_nil_iff,
        checkCondition_eq_nil_iff, ne_eq, reduceCtorEq, not_false_eq_true, true_and]
      exact forall_mem_zipIdx (P := ConditionDraft.WellFormed)

/-- What a mapping has besides its transformation is found faultless. -/
theorem checkPlacement_eq_nil_iff {index : Nat} {m : MappingDraft} :
    checkPlacement index m = [] ↔
      Present m.targetFieldName ∧ Positive m.targetPosition ∧ Positive m.length ∧
        (∀ word, m.pad = some word →
          ∃ side : Layout.PadSide, side.name = Text.lower (Text.strip word)) ∧
        ∀ text, m.padChar = some text → text.length = 1 := by
  simp only [checkPlacement, List.append_eq_nil_iff, and_assoc]
  refine and_congr ?_ (and_congr ?_ (and_congr ?_ (and_congr ?_ ?_)))
  · rw [← Text.isBlank?_eq_false_iff]
    cases Text.isBlank? m.targetFieldName <;> simp
  · rw [← isPositive_iff]
    cases isPositive m.targetPosition <;> simp
  · rw [← isPositive_iff]
    cases isPositive m.length <;> simp
  · simp only [← Layout.PadSide.ofText?_eq_some_iff, ← Layout.readPadSide_some_eq_ok]
    cases m.pad with
    | none => simp
    | some word =>
      simp only [Option.map_some, Option.some.injEq, forall_eq']
      cases Layout.readPadSide (some word) <;> simp
  · cases m.padChar <;> simp

/-- The kind of a mapping is the one whose name its word is. -/
theorem mappingKind_eq_ok_iff {m : MappingDraft} {kind : Layout.TransformationKind} :
    mappingKind m = .ok kind ↔
      ∃ word, m.transformationType = some word ∧ kind.name = Text.lower (Text.strip word) := by
  unfold mappingKind
  cases h : m.transformationType.filter fun word => !Text.isBlank word with
  | none =>
    rw [Text.filter_nonBlank_eq_none_iff] at h
    simp only [reduceCtorEq, false_iff]
    rintro ⟨word, hw, hk⟩
    have nonBlank := Layout.TransformationKind.isBlank_eq_false_of_ofText?
      (Layout.TransformationKind.ofText?_eq_some_iff.2 hk)
    exact h ⟨word, hw, nonBlank⟩
  | some word =>
    obtain ⟨hw, -⟩ := Text.filter_nonBlank_eq_some_iff.1 h
    simp only [hw, Option.some.injEq, exists_eq_left', ← Layout.TransformationKind.ofText?_eq_some_iff]
    cases Layout.TransformationKind.ofText? word <;> simp

/-- A mapping is found faultless exactly when it is well-formed. -/
theorem checkMapping_errors_eq_nil_iff {index : Nat} {m : MappingDraft} :
    (checkMapping index m).errors = [] ↔ m.WellFormed := by
  unfold checkMapping
  cases h : mappingKind m with
  | error fault =>
    simp only [List.map_eq_nil_iff, List.append_eq_nil_iff, List.cons_ne_self, and_false, false_iff]
    intro wellFormed
    -- Without a kind the transformation is not looked at, but a well-formed mapping has one.
    obtain ⟨word, kind, hw, hk, -⟩ := wellFormed.kind
    rw [mappingKind_eq_ok_iff.2 ⟨word, hw, hk⟩] at h
    cases h
  | ok kind =>
    simp only [List.map_eq_nil_iff, List.append_eq_nil_iff, checkPlacement_eq_nil_iff,
      checkTransformation_eq_nil_iff]
    constructor
    · rintro ⟨⟨name, position, length, pad, padChar⟩, supplies⟩
      obtain ⟨word, hw, hk⟩ := mappingKind_eq_ok_iff.1 h
      exact ⟨name, position, length, pad, padChar, word, kind, hw, hk, supplies⟩
    · rintro ⟨name, position, length, pad, padChar, word, kind', hw, hk, supplies⟩
      have same : mappingKind m = .ok kind' := mappingKind_eq_ok_iff.2 ⟨word, hw, hk⟩
      rw [h] at same
      cases same
      exact ⟨⟨name, position, length, pad, padChar⟩, supplies⟩

/-! ## The definition as a whole -/

/-- Reports put together have what the single reports have, in order. -/
theorem foldl_append (reports : List ShapeReport) (before : ShapeReport) :
    reports.foldl ShapeReport.append before =
      ⟨before.errors ++ reports.flatMap ShapeReport.errors,
        before.warnings ++ reports.flatMap ShapeReport.warnings⟩ := by
  induction reports generalizing before with
  | nil => simp
  | cons report rest ih =>
    rw [List.foldl_cons, ih, ShapeReport.append, List.flatMap_cons, List.flatMap_cons, List.append_assoc,
      List.append_assoc]

/-- Every mapping of a draft that was read before is checked. -/
theorem checkMappings_draft (draft : ConfigDraft) :
    checkMappings (readSubmission (.draft draft)) =
      ⟨draft.mappings.zipIdx.flatMap fun (m, i) => (checkMapping i m).errors,
        draft.mappings.zipIdx.flatMap fun (m, i) => (checkMapping i m).warnings⟩ := by
  have zipped : draft.mappings.zip (draft.mappings.map fun _ => true) =
      draft.mappings.map fun m => (m, true) := by
    have := List.zip_map' (f := fun m : MappingDraft => m) (g := fun _ => true)
      (l := draft.mappings)
    rwa [List.map_id'] at this
  rw [checkMappings, foldl_append]
  simp only [readSubmission, zipped, List.nil_append, List.flatMap_map, List.zipIdx_map]
  rfl

theorem checkMappings_errors_eq_nil_iff {draft : ConfigDraft} :
    (checkMappings (readSubmission (.draft draft))).errors = [] ↔
      ∀ m ∈ draft.mappings, m.WellFormed := by
  rw [checkMappings_draft, List.flatMap_eq_nil_iff]
  simp only [checkMapping_errors_eq_nil_iff]
  exact forall_mem_zipIdx (P := MappingDraft.WellFormed)

/-- What every element has can be collected without gaps. -/
theorem map_some_filterMap {α β : Type} {f : α → Option β} {list : List α}
    (h : ∀ a ∈ list, ∃ b, f a = some b) : (list.filterMap f).map some = list.map f := by
  induction list with
  | nil => rfl
  | cons a rest ih =>
    obtain ⟨b, hb⟩ := h a List.mem_cons_self
    rw [List.filterMap_cons_some hb, List.map_cons, List.map_cons, hb,
      ih fun c hc => h c (List.mem_cons_of_mem a hc)]

/-- Positions that are all there are not repeated exactly when they differ pairwise. -/
theorem positions_nodup_iff {mappings : List MappingDraft}
    (h : ∀ m ∈ mappings, m.WellFormed) :
    (mappings.filterMap MappingDraft.targetPosition).Nodup ↔
      (mappings.map MappingDraft.targetPosition).Nodup := by
  rw [← map_some_filterMap (f := MappingDraft.targetPosition)]
  · exact (List.nodup_map_iff (Option.some_injective Int)).symm
  · intro m hm
    obtain ⟨n, hn, -⟩ := (h m hm).position
    exact ⟨n, hn⟩

theorem map_some_targetNames {mappings : List MappingDraft} (h : ∀ m ∈ mappings, m.WellFormed) :
    (targetNames mappings).map some = mappings.map MappingDraft.targetFieldName := by
  have given : ∀ m ∈ mappings, m.targetFieldName.filter (fun name => !Text.isBlank name) =
      m.targetFieldName := by
    intro m hm
    obtain ⟨name, hn, nonBlank⟩ := (h m hm).name
    rw [hn]
    exact Text.filter_nonBlank_eq_some_iff.2 ⟨rfl, nonBlank⟩
  rw [targetNames, map_some_filterMap]
  · exact List.map_congr_left given
  · intro m hm
    obtain ⟨name, hn, -⟩ := (h m hm).name
    exact ⟨name, (given m hm).trans hn⟩

/-- The keys of the names are the keys of the mappings. -/
theorem map_some_keys {mappings : List MappingDraft} (h : ∀ m ∈ mappings, m.WellFormed) :
    ((targetNames mappings).map fieldKey).map some =
      mappings.map fun m => m.targetFieldName.map fieldKey := by
  have := congrArg (List.map (Option.map fieldKey)) (map_some_targetNames h)
  rw [List.map_map, List.map_map] at this
  rw [List.map_map]
  exact this

/-- Names are repeated nowhere and share no key exactly when names and keys differ pairwise. -/
theorem names_nodup_iff {mappings : List MappingDraft} (h : ∀ m ∈ mappings, m.WellFormed) :
    (repeated (targetNames mappings) = [] ∧ keyCollisions (targetNames mappings) = []) ↔
      (mappings.map MappingDraft.targetFieldName).Nodup ∧
        (mappings.map fun m => m.targetFieldName.map fieldKey).Nodup := by
  rw [← map_some_keys h, ← map_some_targetNames h, List.nodup_map_iff (Option.some_injective _),
    List.nodup_map_iff (Option.some_injective _), repeated_eq_nil_iff, keyCollisions_eq_nil_iff]
  exact and_congr_right fun distinct => (List.nodup_map_iff_inj_on distinct).symm

/-- The width of the line counts every length once. -/
theorem totalLength_eq_sum {mappings : List MappingDraft} (h : ∀ m ∈ mappings, m.WellFormed) :
    totalLength mappings = (mappings.map fun m => m.length.getD 0).sum := by
  induction mappings with
  | nil => rfl
  | cons m rest ih =>
    obtain ⟨n, hn, positive⟩ := (h m List.mem_cons_self).length
    have rest_sum := ih fun m' hm' => h m' (List.mem_cons_of_mem m hm')
    rw [totalLength] at rest_sum ⊢
    have kept : decide (0 < n) = true := decide_eq_true positive
    rw [List.filterMap_cons_some hn, List.filter_cons, if_pos kept, List.foldr_cons, rest_sum,
      List.map_cons, List.sum_cons, hn, Option.getD_some]

theorem checkWhole_eq_nil_iff {draft : ConfigDraft} (h : ∀ m ∈ draft.mappings, m.WellFormed) :
    checkWhole draft = [] ↔
      draft.mappings ≠ [] ∧ Present draft.sourceSystem ∧ Present draft.jobName ∧
        (draft.mappings.map MappingDraft.targetPosition).Nodup ∧
        (draft.mappings.map MappingDraft.targetFieldName).Nodup ∧
        (draft.mappings.map fun m => m.targetFieldName.map fieldKey).Nodup := by
  simp only [checkWhole, List.append_eq_nil_iff, and_assoc, List.map_eq_nil_iff]
  rw [repeated_eq_nil_iff, positions_nodup_iff h, names_nodup_iff h]
  refine and_congr ?_ (and_congr ?_ (and_congr_left fun _ => ?_))
  · cases draft.mappings <;> simp
  · rw [← Text.isBlank?_eq_false_iff]
    cases Text.isBlank? draft.sourceSystem <;> simp
  · rw [← Text.isBlank?_eq_false_iff]
    cases Text.isBlank? draft.jobName <;> simp

theorem checkLength_eq_nil_iff {maximum : Int} {draft : ConfigDraft} :
    checkLength maximum draft = [] ↔ totalLength draft.mappings ≤ maximum := by
  simp only [checkLength, ite_eq_right_iff, List.cons_ne_nil, imp_false, Int.not_lt]

/-- The errors of a draft are those of the whole, of its mappings and of the width. -/
theorem errors_draft_eq_nil_iff {maximum : Int} {draft : ConfigDraft} :
    (checkShape maximum (.draft draft)).errors = [] ↔
      checkWhole draft = [] ∧ (∀ m ∈ draft.mappings, m.WellFormed) ∧
        totalLength draft.mappings ≤ maximum := by
  rw [← checkMappings_errors_eq_nil_iff, ← checkLength_eq_nil_iff]
  simp only [checkShape, readSubmission, List.append_eq_nil_iff, List.map_nil, true_and, and_assoc]

theorem wellFormed_of_valid {maximum : Int} {draft : ConfigDraft}
    (valid : (checkShape maximum (.draft draft)).valid = true) : draft.WellFormed maximum := by
  rw [ShapeReport.valid, List.isEmpty_iff] at valid
  obtain ⟨whole, each, width⟩ := errors_draft_eq_nil_iff.1 valid
  -- The passes over the whole definition skip what is missing; nothing is, in mappings that are well-formed.
  obtain ⟨nonEmpty, sourceSystem, jobName, positions, names, keys⟩ := (checkWhole_eq_nil_iff each).1 whole
  rw [totalLength_eq_sum each] at width
  exact ⟨sourceSystem, jobName, nonEmpty, each, names, keys, positions, width⟩

theorem ConfigDraft.WellFormed.valid {maximum : Int} {draft : ConfigDraft} (h : draft.WellFormed maximum) :
    (checkShape maximum (.draft draft)).valid = true := by
  rw [ShapeReport.valid, List.isEmpty_iff]
  refine errors_draft_eq_nil_iff.2 ⟨(checkWhole_eq_nil_iff h.mappings).2 ?_, h.mappings, ?_⟩
  · exact ⟨h.nonEmpty, h.sourceSystem, h.jobName, h.positions, h.names, h.keys⟩
  · rw [totalLength_eq_sum h.mappings]
    exact h.width

/-- The check of a definition finds nothing exactly when the definition is well-formed. -/
theorem checkShape_valid_iff (maximum : Int) (draft : ConfigDraft) :
    (checkShape maximum (.draft draft)).valid = true ↔ draft.WellFormed maximum :=
  ⟨wellFormed_of_valid, ConfigDraft.WellFormed.valid⟩

end FixedExtract.Definition
