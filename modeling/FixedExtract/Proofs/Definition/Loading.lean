import FixedExtract.Compiled.Compile
import FixedExtract.Proofs.Definition.WellFormed
import FixedExtract.Proofs.Layout.Parts
import FixedExtract.Proofs.Layout.Sound
/-!
# Loading checked definitions

The check stands in front of the conversion, so a definition that passes it must convert, and to a sound
layout. Every part of a well-formed draft has such a counterpart; from them follows what a caller may rely
on when a definition is accepted, and what is reported when it is not.
-/

namespace FixedExtract.Definition

open Layout (Parses)

/-! ## Parts -/

theorem Testable.parses {expression : Option Text} (h : Testable expression) :
    Parses (expression.getD []) := by
  obtain ⟨text, rfl, -, parsed⟩ := h
  exact parsed

namespace ConditionDraft

theorem WellFormed.toCondition {condition : ConditionDraft} (h : condition.WellFormed) :
    ∃ converted, condition.toCondition = .ok converted ∧ converted.Sound := by
  let ifExpr : Layout.NonBlank := ⟨condition.ifExpr.getD [], h.ifExpr.parses.isBlank_eq_false⟩
  let converted : Layout.Condition :=
    ⟨ifExpr, condition.value.getD [], condition.elseIfs.map toElseIf, condition.elseExpr⟩
  refine ⟨converted, Layout.Condition.make_eq_ok_iff.2 ⟨rfl, rfl, rfl, rfl⟩, ?_⟩
  intro branch hb
  rw [Layout.Condition.branches, List.mem_cons] at hb
  rcases hb with rfl | hb
  · exact h.ifExpr.parses
  · rw [List.map_map, List.mem_map] at hb
    obtain ⟨elseIf, he, rfl⟩ := hb
    exact (h.elseIfs elseIf he).parses

end ConditionDraft

namespace MappingDraft

variable {m : MappingDraft}

/-- The operation is read, whether or not a word for it is given. -/
theorem readOperation_ok {transform : Option Text}
    (h : ∀ word, transform = some word →
      ∃ operation : Layout.CompositeOperation, operation.IsWrittenAs word) :
    ∃ operation, Layout.readOperation transform = .ok operation := by
  cases transform with
  | none => exact ⟨.concat, rfl⟩
  | some word =>
    obtain ⟨operation, ho⟩ := h word rfl
    rw [← Layout.CompositeOperation.ofText?_eq_some_iff] at ho
    exact ⟨operation, Layout.readOperation_some_eq_ok.2 ho⟩

theorem readPadSide_ok {pad : Option Text}
    (h : ∀ word, pad = some word → ∃ side : Layout.PadSide, side.name = Text.lower (Text.strip word)) :
    ∃ side, Layout.readPadSide pad = .ok side := by
  cases pad with
  | none => exact ⟨.right, rfl⟩
  | some word =>
    obtain ⟨side, hs⟩ := h word rfl
    rw [← Layout.PadSide.ofText?_eq_some_iff] at hs
    exact ⟨side, Layout.readPadSide_some_eq_ok.2 hs⟩

/-- The kind that a mapping names is read. -/
theorem readKind_of_named {word : Text} {kind : Layout.TransformationKind} (hw : m.transformationType = some word)
    (hk : kind.name = Text.lower (Text.strip word)) : Layout.readKind (m.transformationType.getD []) = .ok kind := by
  rw [hw, Option.getD_some, Layout.readKind_eq_ok, Layout.TransformationKind.ofText?_eq_some_iff]
  exact hk

/-- A mapping that supplies what its kind needs has a transformation whose expressions parse. -/
theorem toTransformation_ok {word : Text} {kind : Layout.TransformationKind}
    (hw : m.transformationType = some word) (hk : kind.name = Text.lower (Text.strip word))
    (h : m.Supplies kind) :
    ∃ transformation, m.toTransformation = .ok transformation ∧
      ∀ condition ∈ transformation.conditions, condition.Sound := by
  simp only [toTransformation, bind_eq_ok_iff, readKind_of_named hw hk, Except.ok.injEq, exists_eq_left']
  cases kind with
  | source =>
    obtain ⟨field, hf, nonBlank⟩ := h
    refine ⟨.source ⟨field, nonBlank⟩, ?_, by simp [Layout.Transformation.conditions]⟩
    rw [hf]
    exact Layout.Transformation.makeSource_eq_ok_iff.2 ⟨⟨field, nonBlank⟩, rfl, rfl⟩
  | constant => exact ⟨.constant m.value, rfl, by simp [Layout.Transformation.conditions]⟩
  | composite =>
    obtain ⟨nonEmpty, nonBlank, words⟩ := h
    obtain ⟨operation, ho⟩ := readOperation_ok words
    obtain ⟨sources, hs⟩ : ∃ sources : List Layout.NonBlank,
        m.sourceNames = sources.map Layout.NonBlank.text := by
      apply Layout.NonBlank.exists_map_text
      rw [sourceNames, List.forall_mem_map]
      exact nonBlank
    -- The check wants sources in the draft, the transformation wants them among the names.
    have sourcesNonEmpty : sources ≠ [] := by
      rintro rfl
      rw [List.map_nil, sourceNames, List.map_eq_nil_iff] at hs
      exact nonEmpty hs
    refine ⟨.composite sources (m.delimiter.getD []) operation sourcesNonEmpty,
      bind_eq_ok_iff.2 ⟨operation, ho, ?_⟩, by simp [Layout.Transformation.conditions]⟩
    exact Layout.Transformation.makeComposite_eq_ok_iff.2 ⟨sources, sourcesNonEmpty, hs, rfl⟩
  | conditional =>
    obtain ⟨nonEmpty, wellFormed⟩ := h
    obtain ⟨conditions, beside⟩ := exists_forall₂ fun condition hc =>
      (wellFormed condition hc).toCondition
    have converted : m.conditions.mapM ConditionDraft.toCondition = .ok conditions :=
      mapM_eq_ok_iff.2 (beside.imp fun _ _ h => h.1)
    have conditionsNonEmpty : conditions ≠ [] := by
      rintro rfl
      exact nonEmpty (List.forall₂_nil_right_iff.1 beside)
    refine ⟨.conditional conditions conditionsNonEmpty,
      bind_eq_ok_iff.2 ⟨conditions, converted, ?_⟩, ?_⟩
    · exact Layout.Transformation.makeConditional_eq_ok_iff.2 ⟨conditionsNonEmpty, rfl⟩
    · intro condition hc
      obtain ⟨_, -, -, sound⟩ := exists_of_forall₂_right beside condition hc
      exact sound

theorem textOr_ne_nil {otherwise : Text} {text : Option Text} (h : otherwise ≠ []) :
    textOr otherwise text ≠ [] := by
  unfold textOr
  split
  · exact h
  · split
    · exact h
    · simp_all

/-- The filling of a well-formed mapping is one character: the one given, or a blank. -/
theorem textOr_padChar {padChar : Option Text} (h : ∀ text, padChar = some text → text.length = 1) :
    ∃ c, textOr [' '] padChar = [c] := by
  cases padChar with
  | none => exact ⟨' ', rfl⟩
  | some text =>
    obtain ⟨c, rfl⟩ := List.length_eq_one_iff.1 (h text rfl)
    exact ⟨c, rfl⟩

/-- What a converted mapping has of its draft. -/
structure ConvertsTo (m : MappingDraft) (mapping : Layout.Mapping) : Prop where
  converted : m.toMapping = .ok mapping
  sound : mapping.Sound
  name : m.targetFieldName = some mapping.name
  position : m.targetPosition = some (mapping.position : Int)
  length : m.length = some (mapping.length : Int)

/-- A well-formed mapping has a sound counterpart in the same place. -/
theorem WellFormed.convertsTo (h : m.WellFormed) : ∃ mapping, m.ConvertsTo mapping := by
  obtain ⟨word, kind, hw, hk, supplies⟩ := h.kind
  obtain ⟨transformation, ht, conditions⟩ := toTransformation_ok hw hk supplies
  obtain ⟨pad, hp⟩ := readPadSide_ok h.pad
  obtain ⟨padChar, hc⟩ := textOr_padChar h.padChar
  obtain ⟨name, hn, nonBlank⟩ := h.name
  obtain ⟨position, hpos, positive⟩ := h.position
  obtain ⟨length, hlen, wide⟩ := h.length
  have position_cast : (position.toNat : Int) = position := by omega
  have length_cast : (length.toNat : Int) = length := by omega
  let mapping : Layout.Mapping :=
    ⟨name, position.toNat, length.toNat, transformation, pad, padChar,
      textOr defaultDataType m.dataType, m.defaultValue, by omega, by omega⟩
  have made : m.toMapping = .ok mapping := by
    simp only [toMapping, bind_eq_ok_iff, ht, hp, hc, hn, hpos, hlen, Except.ok.injEq,
      exists_eq_left', Option.getD_some]
    exact Layout.Mapping.make_eq_ok_iff.2
      ⟨rfl, position_cast, length_cast, rfl, rfl, rfl, rfl, rfl⟩
  refine ⟨mapping, made, ⟨nonBlank, textOr_ne_nil (by decide), conditions⟩, hn, ?_, ?_⟩
  · rw [hpos, ← position_cast]
  · rw [hlen, ← length_cast]

end MappingDraft

/-! ## Whole definitions -/

namespace ConfigDraft

variable {maximum : Int} {draft : ConfigDraft}

/-- A well-formed definition is converted to a sound layout. -/
theorem WellFormed.toConfig (h : draft.WellFormed maximum) :
    ∃ config, draft.toConfig = .ok config ∧ config.Sound maximum := by
  obtain ⟨mappings, beside⟩ := exists_forall₂ fun m hm => (h.mappings m hm).convertsTo
  have converted : draft.mappings.mapM MappingDraft.toMapping = .ok mappings :=
    mapM_eq_ok_iff.2 (beside.imp fun _ _ h => h.converted)
  obtain ⟨sourceSystem, hs, sourceNonBlank⟩ := h.sourceSystem
  obtain ⟨jobName, hj, jobNonBlank⟩ := h.jobName
  refine ⟨⟨sourceSystem, jobName, draft.transactionType, mappings, draft.version, draft.modified?⟩,
    ?_, ?_⟩
  · rw [ConfigDraft.toConfig, bind_eq_ok_iff]
    refine ⟨mappings, converted, ?_⟩
    rw [hs, hj]
    rfl
  · -- Keys, positions and lengths of the draft are those of the layout, so its checks carry over.
    have keys : draft.mappings.map (fun m => m.targetFieldName.map fieldKey) =
        mappings.map fun mapping => some (fieldKey mapping.name) :=
      map_eq_map_of_forall₂ beside fun m mapping h => by rw [h.name, Option.map_some]
    have positions : draft.mappings.map MappingDraft.targetPosition =
        mappings.map fun mapping => some (mapping.position : Int) :=
      map_eq_map_of_forall₂ beside fun m mapping h => h.position
    have lengths : draft.mappings.map (fun m => m.length.getD 0) =
        mappings.map fun mapping => (mapping.length : Int) :=
      map_eq_map_of_forall₂ beside fun m mapping h => by rw [h.length, Option.getD_some]
    constructor
    · exact sourceNonBlank
    · exact jobNonBlank
    · rintro rfl
      exact h.nonEmpty (List.forall₂_nil_right_iff.1 beside)
    · intro mapping hm
      obtain ⟨m, -, converts⟩ := exists_of_forall₂_right beside mapping hm
      exact converts.sound
    · have distinct := h.keys
      rw [keys] at distinct
      apply List.Nodup.of_map some
      rw [List.map_map]
      exact distinct
    · have distinct := h.positions
      rw [positions] at distinct
      apply List.Nodup.of_map fun position : Nat => some (position : Int)
      rw [List.map_map]
      exact distinct
    · have width := h.width
      rw [lengths] at width
      rw [Layout.recordLength_cast]
      exact width

end ConfigDraft

/-! ## Loading and compiling -/

variable {maximum : Int} {draft : ConfigDraft}

theorem load_of_refused {submission : Submission} (refused : (checkShape maximum submission).valid = false) :
    load maximum submission = .error (.shape (checkShape maximum submission)) := by
  rw [load]
  exact if_neg (by rw [refused]; decide)

theorem valid_of_load {submission : Submission} {config : Layout.Config}
    (loaded : load maximum submission = .ok config) : (checkShape maximum submission).valid = true := by
  by_contra refused
  rw [load_of_refused (Bool.eq_false_iff.2 refused)] at loaded
  cases loaded

/-- What passes the check is loaded, as a sound layout. -/
theorem load_ok (h : draft.WellFormed maximum) :
    ∃ config, draft.toConfig = .ok config ∧ load maximum (.draft draft) = .ok config ∧
      config.Sound maximum := by
  obtain ⟨config, converted, sound⟩ := h.toConfig
  refine ⟨config, converted, ?_, sound⟩
  rw [load, if_pos (h.valid), convert, Submission.toDraft]
  simp only [converted]

/-- What is loaded is the converted draft, and the check stands in front of it. -/
theorem load_eq_ok_iff {config : Layout.Config} :
    load maximum (.draft draft) = .ok config ↔
      draft.WellFormed maximum ∧ draft.toConfig = .ok config := by
  constructor
  · intro h
    have wellFormed := wellFormed_of_valid (valid_of_load h)
    obtain ⟨converted, hc, hl, -⟩ := load_ok wellFormed
    rw [h] at hl
    cases hl
    exact ⟨wellFormed, hc⟩
  · rintro ⟨wellFormed, converted⟩
    obtain ⟨converted', hc, hl, -⟩ := load_ok wellFormed
    rw [converted] at hc
    cases hc
    exact hl

theorem sound_of_load {config : Layout.Config} (h : load maximum (.draft draft) = .ok config) :
    config.Sound maximum := by
  obtain ⟨wellFormed, converted⟩ := load_eq_ok_iff.1 h
  obtain ⟨config', converted', sound⟩ := wellFormed.toConfig
  rw [converted] at converted'
  cases converted'
  exact sound

theorem convert_eq_ok_iff {config : Layout.Config} :
    convert (.draft draft) = .ok config ↔ draft.toConfig = .ok config := by
  rw [convert, Submission.toDraft]
  simp only
  cases draft.toConfig <;> simp

theorem transactionType_of_toConfig {config : Layout.Config} (h : draft.toConfig = .ok config) :
    config.transactionType = draft.transactionType := by
  obtain ⟨mappings, -, made⟩ := bind_eq_ok_iff.1 h
  cases made
  rfl

/-- The details of the failure list the errors of the report in its order. -/
theorem errors?_failure (report : ShapeReport) :
    report.failure.errors? = some (report.errors.map fun fault => .text fault.message) := rfl

/-- A definition that the check accepts is loaded and compiled. Lines of its layout are as wide as the
layout, which is no wider than allowed, and no record makes an expression fault. One that the check refuses
is neither loaded nor compiled, and the failure has all that was found. -/
theorem load_of_checkShape (maximum : Int) (draft : ConfigDraft) :
    let report := checkShape maximum (.draft draft)
    (report.valid = true → ∃ config, load maximum (.draft draft) = .ok config ∧
      Compiled.compile maximum (.draft draft) = .ok (Compiled.text config) ∧
      (config.recordLength : Int) ≤ maximum ∧
      ∀ record : Record,
        (∀ m ∈ config.mappings, ∀ fault, Layout.render m record ≠ .error (.expression fault)) ∧
        ∀ number line, Layout.renderLine config record number = .ok line →
          line.text.length = config.recordLength ∧
            ∀ name fault, .invalidCondition name fault ∉ line.warnings) ∧
    (report.valid = false → load maximum (.draft draft) = .error (.shape report) ∧
      Compiled.compile maximum (.draft draft) = .error (.shape report) ∧
      report.failure.cls = .configShape ∧
      report.failure.errors? = some (report.errors.map fun fault => .text fault.message)) := by
  intro report
  constructor
  · intro valid
    obtain ⟨config, -, loaded, sound⟩ := load_ok (wellFormed_of_valid valid)
    refine ⟨config, loaded, ?_, sound.width, ?_⟩
    · rw [Compiled.compile, loaded]
      rfl
    · intro record
      refine ⟨fun m hm => (sound.mappings m hm).render_ne_expression record, ?_⟩
      intro number line rendered
      exact ⟨Layout.length_text_of_renderLine rendered,
        sound.invalidCondition_notMem_warnings rendered⟩
  · intro invalid
    have refused : load maximum (.draft draft) = .error (.shape report) := by
      rw [load]
      exact if_neg (by rw [invalid]; decide)
    refine ⟨refused, ?_, rfl, errors?_failure report⟩
    rw [Compiled.compile, refused]
    rfl

end FixedExtract.Definition
