import FixedExtract.Proofs.Definition.Loading
/-!
# Drafts of layouts

A layout is edited as a draft that says everything the layout does and leaves out what has its usual
value. Conversion fills this in again, so that the draft of a layout is converted to that layout, and the
draft of a sound one is well-formed.
-/

namespace FixedExtract

/-! ## Drafts -/

namespace Layout.Transformation

/-- The field that is taken over. -/
def sourceField? : Transformation → Option Text
  | .source field => some field.text
  | _ => none

/-- The value of a constant. -/
def value? : Transformation → Option Text
  | .constant value => value
  | _ => none

/-- The sources of a composite. -/
def sources : Transformation → List NonBlank
  | .composite sources .. => sources
  | _ => []

/-- The delimiter of a composite, unless it is empty. -/
def delimiter? : Transformation → Option Text
  | .composite _ delimiter .. => if delimiter.isEmpty then none else some delimiter
  | _ => none

/-- The word for the operation of a composite, unless it is concatenation. -/
def word? : Transformation → Option Text
  | .composite _ _ operation _ => if operation = .concat then none else some operation.name
  | _ => none

end Layout.Transformation

/-- The filling of a mapping, unless it is a blank. -/
def Layout.Mapping.padChar? (m : Layout.Mapping) : Option Text :=
  if m.padChar = ' ' then none else some [m.padChar]

namespace Definition

def ConditionDraft.ofElseIf (branch : Layout.ElseIf) : ConditionDraft :=
  ⟨some branch.condition, some branch.value, [], none⟩

def ConditionDraft.ofCondition (condition : Layout.Condition) : ConditionDraft :=
  ⟨some condition.ifExpr.text, some condition.value, condition.elseIfs.map ofElseIf,
    condition.elseExpr⟩

/-- The draft of a mapping. -/
def MappingDraft.ofMapping (m : Layout.Mapping) : MappingDraft where
  targetFieldName := some m.name
  targetPosition := some m.position
  length := some m.length
  dataType := some m.dataType
  transformationType := some m.transformation.kind.name
  sourceField := m.transformation.sourceField?
  value := m.transformation.value?
  defaultValue := m.defaultValue
  sources := m.transformation.sources.map fun source => .name source.text
  delimiter := m.transformation.delimiter?
  transform := m.transformation.word?
  conditions := m.transformation.conditions.map ConditionDraft.ofCondition
  pad := some m.pad.name
  padChar := m.padChar?

/-- The draft of a layout, as the first of its versions. -/
def ConfigDraft.ofConfig (config : Layout.Config) : ConfigDraft :=
  ⟨some config.sourceSystem, some config.jobName, config.transactionType,
    config.mappings.map MappingDraft.ofMapping, 1, none⟩

/-! ## Conversion -/

namespace ConditionDraft

theorem toElseIf_ofElseIf (branch : Layout.ElseIf) : (ofElseIf branch).toElseIf = branch := rfl

theorem toCondition_ofCondition (condition : Layout.Condition) :
    (ofCondition condition).toCondition = .ok condition := by
  refine Layout.Condition.make_eq_ok_iff.2 ⟨rfl, rfl, ?_, rfl⟩
  have same : toElseIf ∘ ofElseIf = id := funext toElseIf_ofElseIf
  rw [ofCondition, List.map_map, same, List.map_id]

end ConditionDraft

namespace MappingDraft

variable {m : Layout.Mapping}

theorem textOr_padChar? : textOr [' '] m.padChar? = [m.padChar] := by
  unfold Layout.Mapping.padChar?
  split
  · rename_i blank
    rw [blank]
    rfl
  · rfl

theorem delimiter?_getD {sources : List Layout.NonBlank} {delimiter : Text}
    {operation : Layout.CompositeOperation} {nonEmpty : sources ≠ []} :
    (Layout.Transformation.composite sources delimiter operation nonEmpty).delimiter?.getD [] =
      delimiter := by
  unfold Layout.Transformation.delimiter?
  cases delimiter <;> rfl

theorem readOperation_word? {sources : List Layout.NonBlank} {delimiter : Text}
    {operation : Layout.CompositeOperation} {nonEmpty : sources ≠ []} :
    Layout.readOperation
      (Layout.Transformation.composite sources delimiter operation nonEmpty).word? =
      .ok operation := by
  unfold Layout.Transformation.word?
  dsimp only
  split
  · rename_i concat
    rw [concat]
    rfl
  · exact Layout.readOperation_name operation

theorem toTransformation_ofMapping : (ofMapping m).toTransformation = .ok m.transformation := by
  have kindRead : Layout.readKind ((ofMapping m).transformationType.getD []) =
      .ok m.transformation.kind := Layout.readKind_name _
  simp only [toTransformation, bind_eq_ok_iff, kindRead, Except.ok.injEq, exists_eq_left']
  cases ht : m.transformation with
  | source field =>
    simp only [Layout.Transformation.kind, ofMapping, ht]
    exact Layout.Transformation.makeSource_eq_ok_iff.2 ⟨field, rfl, rfl⟩
  | constant value =>
    simp only [Layout.Transformation.kind, ofMapping, ht]
    rfl
  | composite sources delimiter operation nonEmpty =>
    simp only [Layout.Transformation.kind, ofMapping, ht, bind_eq_ok_iff]
    refine ⟨operation, readOperation_word?, ?_⟩
    rw [delimiter?_getD, Layout.Transformation.makeComposite_eq_ok_iff]
    refine ⟨sources, nonEmpty, ?_, rfl⟩
    rw [sourceNames, List.map_map]
    rfl
  | conditional conditions nonEmpty =>
    simp only [Layout.Transformation.kind, ofMapping, ht, bind_eq_ok_iff]
    refine ⟨conditions, ?_, Layout.Transformation.makeConditional_eq_ok_iff.2 ⟨nonEmpty, rfl⟩⟩
    rw [mapM_eq_ok_iff, List.forall₂_map_left_iff, Layout.Transformation.conditions,
      List.forall₂_same]
    intro condition _
    exact ConditionDraft.toCondition_ofCondition condition

/-- The draft of a mapping is converted to the mapping. -/
theorem toMapping_ofMapping (typed : m.dataType ≠ []) : (ofMapping m).toMapping = .ok m := by
  have pad : Layout.readPadSide (ofMapping m).pad = .ok m.pad := Layout.readPadSide_name m.pad
  simp only [toMapping, bind_eq_ok_iff, toTransformation_ofMapping, pad, Except.ok.injEq,
    exists_eq_left']
  refine Layout.Mapping.make_eq_ok_iff.2 ⟨rfl, rfl, rfl, rfl, rfl, textOr_padChar?.symm, ?_, rfl⟩
  simp only [ofMapping, textOr]
  rw [if_neg (by simpa using typed)]

end MappingDraft

/-- The draft of a layout is converted to the layout, as the first of its versions. -/
theorem ConfigDraft.toConfig_ofConfig {config : Layout.Config}
    (typed : ∀ m ∈ config.mappings, m.dataType ≠ []) :
    (ofConfig config).toConfig = .ok { config with version := 1, lastModified := none } := by
  rw [toConfig, bind_eq_ok_iff]
  refine ⟨config.mappings, ?_, rfl⟩
  rw [mapM_eq_ok_iff, ofConfig, List.forall₂_map_left_iff, List.forall₂_same]
  intro m hm
  exact MappingDraft.toMapping_ofMapping (typed m hm)

/-! ## Well-formedness -/

theorem testable_of_parses {expression : Text} (h : Layout.Parses expression) :
    Testable (some expression) := ⟨expression, rfl, h.isBlank_eq_false, h⟩

theorem ConditionDraft.wellFormed_ofCondition {condition : Layout.Condition}
    (sound : condition.Sound) : (ofCondition condition).WellFormed := by
  constructor
  · exact testable_of_parses (sound _ List.mem_cons_self)
  · rw [ofCondition, List.forall_mem_map]
    intro branch hb
    have expression := sound (branch.condition, branch.value)
      (List.mem_cons_of_mem _ (List.mem_map.2 ⟨branch, hb, rfl⟩))
    exact testable_of_parses expression

namespace MappingDraft

variable {m : Layout.Mapping}

theorem supplies_ofMapping (sound : m.Sound) : (ofMapping m).Supplies m.transformation.kind := by
  have conditionsSound := sound.conditions
  cases ht : m.transformation with
  | source field => exact ⟨field.text, by rw [ofMapping, ht]; rfl, field.nonBlank⟩
  | constant value => exact True.intro
  | composite sources delimiter operation nonEmpty =>
    simp only [Layout.Transformation.kind, Supplies, ofMapping, ht]
    refine ⟨?_, ?_, ?_⟩
    · rw [Layout.Transformation.sources, Ne, List.map_eq_nil_iff]
      exact nonEmpty
    · rw [List.forall_mem_map]
      intro source _
      exact source.nonBlank
    · intro word hw
      refine ⟨operation, ?_⟩
      unfold Layout.Transformation.word? at hw
      dsimp only at hw
      split at hw
      · cases hw
      · cases hw
        exact Layout.CompositeOperation.ofText?_eq_some_iff.1
          (Layout.CompositeOperation.ofText?_name operation)
  | conditional conditions nonEmpty =>
    rw [ht] at conditionsSound
    simp only [Layout.Transformation.kind, Supplies, ofMapping, ht]
    refine ⟨?_, ?_⟩
    · rw [Layout.Transformation.conditions, Ne, List.map_eq_nil_iff]
      exact nonEmpty
    · rw [List.forall_mem_map]
      intro condition hc
      exact ConditionDraft.wellFormed_ofCondition (conditionsSound condition hc)

theorem wellFormed_ofMapping (sound : m.Sound) : (ofMapping m).WellFormed where
  name := ⟨m.name, rfl, sound.name⟩
  position := ⟨m.position, rfl, Int.natCast_pos.2 m.position_pos⟩
  length := ⟨m.length, rfl, Int.natCast_pos.2 m.length_pos⟩
  pad := by
    intro word hw
    cases hw
    exact ⟨m.pad, Layout.PadSide.ofText?_eq_some_iff.1 (Layout.PadSide.ofText?_name m.pad)⟩
  padChar := by
    intro text ht
    simp only [ofMapping, Layout.Mapping.padChar?] at ht
    split at ht
    · cases ht
    · cases ht
      rfl
  kind := by
    refine ⟨m.transformation.kind.name, m.transformation.kind, rfl, ?_, supplies_ofMapping sound⟩
    exact Layout.TransformationKind.ofText?_eq_some_iff.1
      (Layout.TransformationKind.ofText?_name m.transformation.kind)

end MappingDraft

/-- The draft of a sound layout is well-formed. -/
theorem ConfigDraft.wellFormed_ofConfig {maximum : Int} {config : Layout.Config}
    (sound : config.Sound maximum) : (ofConfig config).WellFormed maximum where
  sourceSystem := ⟨config.sourceSystem, rfl, sound.sourceSystem⟩
  jobName := ⟨config.jobName, rfl, sound.jobName⟩
  nonEmpty := by
    rw [ofConfig, Ne, List.map_eq_nil_iff]
    exact sound.nonEmpty
  mappings := by
    rw [ofConfig, List.forall_mem_map]
    intro m hm
    exact MappingDraft.wellFormed_ofMapping (sound.mappings m hm)
  names := by
    have names : (config.mappings.map Layout.Mapping.name).Nodup := by
      apply List.Nodup.of_map fieldKey
      rw [List.map_map]
      exact sound.keys
    have drafted := names.map (Option.some_injective Text)
    rw [List.map_map] at drafted
    rw [ofConfig, List.map_map]
    exact drafted
  keys := by
    have drafted := sound.keys.map (Option.some_injective Text)
    rw [List.map_map] at drafted
    rw [ofConfig, List.map_map]
    exact drafted
  positions := by
    have injective : Function.Injective fun position : Nat => some (position : Int) :=
      fun a b h => Int.ofNat.inj (Option.some.inj h)
    have drafted := sound.positions.map injective
    rw [List.map_map] at drafted
    rw [ofConfig, List.map_map]
    exact drafted
  width := by
    have drafted : ((ofConfig config).mappings.map fun m => m.length.getD 0) =
        config.mappings.map fun m => (m.length : Int) := by
      rw [ofConfig, List.map_map]
      rfl
    rw [drafted, ← Layout.recordLength_cast]
    exact sound.width

end Definition
end FixedExtract
